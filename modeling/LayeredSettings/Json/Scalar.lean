import LayeredSettings.Value.Basic

/-!
# Scalars and objects as JSON

The JSON form of values, and the indented form of an object of scalars.
-/

namespace LayeredSettings.Json

/-- A JSON value that is neither an array nor an object. -/
inductive Scalar where
  | null
  | boolean (b : Bool)
  | integer (i : Int64)
  | float (negative : Bool) (magnitude : Fin finiteCount)
  | string (s : String)
  deriving DecidableEq

/-- JSON has no word for infinities and for what is no number. -/
def Scalar.ofFloat : Binary64 → Scalar
  | .finite negative magnitude => .float negative magnitude
  | _ => .null

/-- A hexadecimal digit in lower case. -/
def hexDigit (n : Nat) : Char := (Nat.toDigits 16 n).headD '0'

/-- A character inside a quoted text. -/
def quotedChar (c : Char) : List Char :=
  match c with
  | '"' => ['\\', '"']
  | '\\' => ['\\', '\\']
  | '\x08' => ['\\', 'b']
  | '\x0c' => ['\\', 'f']
  | '\n' => ['\\', 'n']
  | '\r' => ['\\', 'r']
  | '\t' => ['\\', 't']
  | c =>
    if c.toNat < 0x20 then ['\\', 'u', '0', '0', hexDigit (c.toNat / 16), hexDigit (c.toNat % 16)]
    else [c]

/-- A text in quotes. -/
def quoted (s : String) : String :=
  String.ofList ('"' :: s.toList.flatMap quotedChar ++ ['"'])

/-- The text of a scalar. -/
def Scalar.text : Scalar → String
  | null => "null"
  | boolean b => truthText b
  | integer i => integerText i.toInt
  | float negative magnitude => (Binary64.finite negative magnitude).text .json "null"
  | string s => quoted s

/-- An object of scalars, one member a line, indented by two blanks. -/
def indentedObject (members : List (String × Scalar)) : String :=
  if members.isEmpty then "\x7b\x7d"
  else
    let lines := members.map fun (key, value) => "  " ++ quoted key ++ ": " ++ value.text
    "\x7b\n" ++ ",\n".intercalate lines ++ "\n\x7d"

end LayeredSettings.Json

namespace LayeredSettings

/-- The JSON form of a value; a secret is masked unless `reveal` is set. -/
def Value.toJson (reveal : Bool) : Value → Json.Scalar
  | .boolean b => .boolean b
  | .integer i => .integer i
  | .float x => .ofFloat x
  | value => .string (value.display reveal)

/-- The JSON form of a raw value. -/
def Raw.toJson : Raw → Json.Scalar
  | .boolean b => .boolean b
  | .integer i => .integer i
  | .float x => .ofFloat x
  | .text s => .string s

end LayeredSettings
