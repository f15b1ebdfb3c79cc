import LayeredSettings.Path

/-!
# The parts of a path

The directory a path lies in and the name at its end, as texts: what is cut off is the last
component with the slashes and dots around it, and the rest stays as it was written.
-/

namespace LayeredSettings.Path

/-- The pieces without those at the end that stand for no step; `kept` pieces stay in any case. -/
def trimPieces (kept : Nat) (ps : List (List Char)) : List (List Char) :=
  ps.take kept ++ ((ps.drop kept).reverse.dropWhile fun p => p = [] ∨ p = ['.']).reverse

/-- The number of pieces in front that stay whatever follows: the root, or `.` at the start. -/
def keptPieces (ps : List (List Char)) : Nat :=
  match ps with
  | [] :: _ :: _ => 1
  | ['.'] :: _ => 1
  | _ => 0

/-- The pieces before the last component, and that component's piece, if the path has one besides
the root. -/
def splitLast? (p : Path) : Option (List (List Char) × List Char) :=
  let ps := pieces p.text.toList
  let kept := keptPieces ps
  match (trimPieces kept ps).reverse with
  | [] => none
  | last :: before =>
    if before.isEmpty ∧ p.isAbsolute then none
    else
      let rest := before.reverse
      some (trimPieces (min kept rest.length) rest, last)

/-- The text of some pieces; the root alone is one slash. -/
def ofPieces (absolute : Bool) (ps : List (List Char)) : Path :=
  if absolute && ps.length ≤ 1 then ⟨"/"⟩ else ⟨String.ofList (['/'].intercalate ps)⟩

/-- The path without its last component; a root and an empty path have none. -/
def parent? (p : Path) : Option Path :=
  p.splitLast?.map fun (before, _) => ofPieces p.isAbsolute before

/-- The name at the end of a path, unless the path ends in `.`, `..` or the root. -/
def fileName? (p : Path) : Option String :=
  match p.splitLast? with
  | some (_, last) =>
    if last = ['.'] ∨ last = ['.', '.'] ∨ last = [] then none else some (String.ofList last)
  | none => none

/-- The path with another name at its end, or with the name below it if it ends in none. -/
def withFileName (p : Path) (name : String) : Path :=
  match p.fileName? with
  | some _ => ((p.parent?).getD ⟨""⟩).join name
  | none => p.join name

/-- The directory that a file at the path lies in; `.` if the path names none. -/
def directory (p : Path) : Path :=
  match p.parent? with
  | some parent => if parent.text = "" then ⟨"."⟩ else parent
  | none => ⟨"."⟩

/-- The path without the slashes at its end; a slash at the start stays. -/
def withoutSlashes (p : Path) : Path :=
  match p.text.toList with
  | [] => p
  | c :: rest => ⟨String.ofList (c :: (rest.reverse.dropWhile (· == '/')).reverse)⟩

end LayeredSettings.Path
