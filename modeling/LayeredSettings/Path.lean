import LayeredSettings.Text.Basic

/-!
# Paths

A path is kept as the text it was given. Two paths are the same place name when their components
agree: repeated and trailing slashes and every `.` that is not at the start count for nothing.
-/

namespace LayeredSettings

/-- A path, as written. -/
structure Path where
  text : String
  deriving DecidableEq

namespace Path

/-- One step of a path. -/
inductive Component where
  | root
  | here
  | up
  | name (text : String)
  deriving DecidableEq

/-- The pieces between the slashes. -/
def pieces (cs : List Char) : List (List Char) :=
  cs.splitOn '/'

/-- The path starts at the root. -/
def isAbsolute (p : Path) : Bool := p.text.toList.head? == some '/'

/-- The step that a piece after the start stands for; nothing and `.` stand for no step. -/
def step? (piece : List Char) : Option Component :=
  if piece = [] ∨ piece = ['.'] then none
  else if piece = ['.', '.'] then some .up
  else some (.name (String.ofList piece))

/-- The steps of a relative path of which no piece stands at the start. -/
def steps (cs : List Char) : List Component := (pieces cs).filterMap step?

/-- The components of a path. -/
def components (p : Path) : List Component :=
  let cs := p.text.toList
  if p.isAbsolute then .root :: steps cs
  else if (pieces cs).head? = some ['.'] then .here :: steps cs
  else steps cs

/-- The two paths have the same components. -/
def same (p q : Path) : Bool := p.components == q.components

/-- A path below another: one slash is put between them unless one stands there, and an absolute
right side stands alone. -/
def join (p : Path) (right : String) : Path :=
  if right.toList.head? = some '/' then ⟨right⟩
  else if p.text.toList = [] ∨ p.text.toList.getLast? = some '/' then ⟨p.text ++ right⟩
  else ⟨p.text ++ "/" ++ right⟩

end Path

/-- The home directory, if there is one. -/
abbrev Home := Option Path

/-- A path text with a leading `~` replaced by the home directory; `~` counts alone or before a
slash. -/
def Home.expand (home : Home) (text : String) : Path :=
  match home, text.toList with
  | some directory, ['~'] => directory
  | some directory, '~' :: '/' :: rest => directory.join (String.ofList rest)
  | _, _ => ⟨text⟩

end LayeredSettings
