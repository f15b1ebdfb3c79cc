import LayeredSettings.Number.Style
import LayeredSettings.Path

/-!
# Setting values

A setting has a kind; users supply raw values, and a typed value is what a kind makes of a raw one.
Every value has a text, in which secrets are exposed, and a raw form for the profiles file.
-/

namespace LayeredSettings

/-- What values a setting takes. -/
inductive Kind where
  | boolean
  | integer
  | float
  | string
  | path
  | secret
  | enumeration (members : List String)
  deriving DecidableEq

/-- A value as supplied: a scalar of the profiles file, or text. -/
inductive Raw where
  | boolean (b : Bool)
  | integer (i : Int64)
  | float (x : Binary64)
  | text (s : String)
  deriving DecidableEq

/-- A typed value. -/
inductive Value where
  | boolean (b : Bool)
  | integer (i : Int64)
  | float (x : Binary64)
  | string (s : String)
  | path (p : Path)
  | enumeration (member : String)
  | secret (s : String)
  deriving DecidableEq

/-- The name of a kind in messages. -/
def Kind.label : Kind → String
  | boolean => "boolean"
  | integer => "integer"
  | float => "float"
  | string => "string"
  | path => "path"
  | secret => "secret"
  | enumeration _ => "enumeration"

/-- The text of a truth value. -/
def truthText (b : Bool) : String := if b then "true" else "false"

/-- The decimal digits of an integer, with a minus sign if it is negative. -/
def integerText (i : Int) : String :=
  String.ofList (Binary64.signText (i < 0) ++ Decimal.digitsOf i.natAbs)

/-- The text of a floating-point number: it always shows a fraction or a power of ten. -/
def floatText (x : Binary64) : String := x.text .shown "NaN"

/-- The text of a raw value. -/
def Raw.toText : Raw → String
  | boolean b => truthText b
  | integer i => integerText i.toInt
  | float x => floatText x
  | text s => s

/-- Equality of raw values; floating-point numbers are compared as numbers. -/
def Raw.same : Raw → Raw → Bool
  | boolean a, boolean b => a == b
  | integer a, integer b => a == b
  | float a, float b => a.same b
  | text a, text b => a == b
  | _, _ => false

namespace Value

/-- What is shown in place of a secret. -/
def mask : String := "********"

/-- The text of a value, secrets exposed. -/
def render : Value → String
  | boolean b => truthText b
  | integer i => integerText i.toInt
  | float x => floatText x
  | string s => s
  | path p => p.text
  | enumeration member => member
  | secret s => s

/-- The text shown to a user; a secret is masked unless `reveal` is set. -/
def display (reveal : Bool) : Value → String
  | secret s => if reveal then s else mask
  | value => value.render

/-- The raw form stored in the profiles file: numbers and truth values as such, all else as text. -/
def toRaw : Value → Raw
  | boolean b => .boolean b
  | integer i => .integer i
  | float x => .float x
  | value => .text value.render

/-- The truth value that a value holds. -/
def asBoolean? : Value → Option Bool
  | boolean b => some b
  | _ => none

/-- The integer that a value holds. -/
def asInteger? : Value → Option Int64
  | integer i => some i
  | _ => none

/-- The number that a value holds, an integer being rounded to the nearest. -/
def asFloat? : Value → Option Binary64
  | float x => some x
  | integer i => some (Binary64.ofInt i.toInt)
  | _ => none

/-- The text that a string or a member of an enumeration holds. -/
def asString? : Value → Option String
  | string s => some s
  | enumeration member => some member
  | _ => none

/-- The path that a value holds. -/
def asPath? : Value → Option Path
  | path p => some p
  | _ => none

/-- Equality of values: numbers compare as numbers and paths by their components. -/
def same : Value → Value → Bool
  | boolean a, boolean b => a == b
  | integer a, integer b => a == b
  | float a, float b => a.same b
  | string a, string b => a == b
  | path a, path b => a.same b
  | enumeration a, enumeration b => a == b
  | secret a, secret b => a == b
  | _, _ => false

end Value

/-- The value is of the shape that the kind makes. -/
def Kind.accepts : Kind → Value → Bool
  | boolean, .boolean _ => true
  | integer, .integer _ => true
  | float, .float _ => true
  | string, .string _ => true
  | path, .path _ => true
  | secret, .secret _ => true
  | enumeration members, .enumeration member => members.contains member
  | _, _ => false

end LayeredSettings
