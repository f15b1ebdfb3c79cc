import LayeredSettings.Toml.Number
import LayeredSettings.Toml.Tree

/-!
# Reading TOML

A document is a list of sections: the lines before the first header, and each header with the lines
after it. It is read section by section and then built into one table.
-/

namespace LayeredSettings.Toml

/-- Reads a key, the equals sign and a value. -/
def line? (value : Scan Value) : Scan (List String × Value) := fun cs => do
  let (path, rest) ← key? maxDepth cs
  let (v, rest) ← value (skipBlanks (← char? '=' (skipBlanks rest)))
  return ((path, v), rest)

/-- Reads the values of an array after its opening bracket, and the closing one. `count` bounds the
number of values. -/
def items? (value : Scan Value) : (count : Nat) → Scan (List Value)
  | 0, _ => none
  | count + 1, cs =>
    match skipLines false cs with
    | ']' :: rest => some ([], rest)
    | cs => do
      let (item, rest) ← value cs
      match skipLines false rest with
      | ',' :: rest => do
        let (items, rest) ← items? value count rest
        return (item :: items, rest)
      | ']' :: rest => return ([item], rest)
      | _ => none

/-- Reads the members of an inline table up to the closing brace; there is at least one. `count`
bounds their number. -/
def inlineLines? (value : Scan Value) : (count : Nat) → Scan (List (List String × Value))
  | 0, _ => none
  | count + 1, cs => do
    let (line, rest) ← line? value cs
    match skipBlanks rest with
    | ',' :: rest => do
      let (lines, rest) ← inlineLines? value count rest
      return (line :: lines, rest)
    | '\x7d' :: rest => return ([line], rest)
    | _ => none

/-- Reads an inline table after its opening brace. -/
def inlineTable? (value : Scan Value) : Scan Value := fun cs =>
  match skipBlanks cs with
  | '\x7d' :: rest => some (.table [], rest)
  | cs => do
    let (lines, rest) ← inlineLines? value cs.length cs
    let t ← Draft.new.putLines lines
    return (t.toNode.toValue, rest)

/-- Reads a value in which arrays and inline tables lie at most `depth` deep. -/
def value? : (depth : Nat) → Scan Value
  | depth + 1, '[' :: rest =>
    (items? (value? depth) (rest.length + 1) rest).map fun (items, rest) => (.array items, rest)
  | depth + 1, '\x7b' :: rest => inlineTable? (value? depth) rest
  | _, cs => scalar? cs

/-- Whether a header opens one table or the next of a list of tables. -/
inductive HeaderKind where
  | table
  | item

/-- A header with the lines after it. -/
structure Section where
  kind : HeaderKind
  path : List String
  lines : List (List String × Value)

/-- Reads a header and the end of its line. -/
def header? : Scan (HeaderKind × List String)
  | '[' :: '[' :: rest => do
    let (path, rest) ← key? maxDepth rest
    match skipBlanks rest with
    | ']' :: ']' :: rest => return ((.item, path), ← restOfLine? rest)
    | _ => none
  | '[' :: rest => do
    let (path, rest) ← key? maxDepth rest
    match skipBlanks rest with
    | ']' :: rest => return ((.table, path), ← restOfLine? rest)
    | _ => none
  | _ => none

/-- Reads the lines of a document: the key lines before the first header, then the sections. `count`
bounds the number of lines. -/
def sections? : (count : Nat) → List Char → Option (List (List String × Value) × List Section)
  | 0, _ => none
  | count + 1, cs =>
    match skipBlanks cs with
    | [] => some ([], [])
    | '\n' :: rest => sections? count rest
    | '\r' :: '\n' :: rest => sections? count rest
    | '#' :: rest => do sections? count (← lineEnd? (skipComment ('#' :: rest)))
    | '[' :: rest => do
      let ((kind, path), rest) ← header? ('[' :: rest)
      let (lines, later) ← sections? count rest
      return ([], ⟨kind, path, lines⟩ :: later)
    | cs => do
      let (line, rest) ← line? (value? maxDepth) cs
      let (lines, later) ← sections? count (← restOfLine? rest)
      return (line :: lines, later)

/-- The table with one section more. -/
def Draft.putSection (t : Draft) (s : Section) : Option Draft :=
  match s.path.getLast?, s.kind with
  | none, _ => none
  | some key, .table => t.modifyAt false (Draft.openTable key s.lines) s.path.dropLast
  | some key, .item => t.modifyAt false (Draft.openItem key s.lines) s.path.dropLast

/-- The members of the document that a text holds, if it is well formed. A byte-order mark at the
start is skipped. -/
def read? (s : String) : Option Table := do
  let cs := if s.toList.head? = some '\ufeff' then s.toList.tail else s.toList
  let (lines, later) ← sections? (cs.length + 1) cs
  let top ← Draft.new.putLines lines
  let root ← later.foldlM Draft.putSection top
  return Node.membersOf root.members

end LayeredSettings.Toml
