import LayeredSettings.Value.Basic

/-!
# TOML documents

The values that a TOML document holds. Tables keep their members in the order of the document. Of a
date or time only its presence is kept.
-/

namespace LayeredSettings.Toml

/-- A value of a TOML document. -/
inductive Value where
  | string (s : String)
  | integer (i : Int64)
  | float (x : Binary64)
  | boolean (b : Bool)
  | datetime
  | array (items : List Value)
  | table (members : List (String × Value))

/-- The members of a table, or of a whole document. -/
abbrev Table := List (String × Value)

end LayeredSettings.Toml

namespace LayeredSettings

/-- The TOML value of a raw value. -/
def Raw.toToml : Raw → Toml.Value
  | .boolean b => .boolean b
  | .integer i => .integer i
  | .float x => .float x
  | .text s => .string s

/-- The raw value that a TOML scalar is; a date, an array or a table is none. -/
def Raw.ofToml? : Toml.Value → Option Raw
  | .string s => some (.text s)
  | .integer i => some (.integer i)
  | .float x => some (.float x)
  | .boolean b => some (.boolean b)
  | _ => none

/-- A raw value reads back from the TOML scalar it is stored as. -/
theorem Raw.ofToml?_toToml (raw : Raw) : Raw.ofToml? raw.toToml = some raw := by
  cases raw <;> rfl

end LayeredSettings
