import LayeredSettings.Toml.Document

/-!
# Written TOML

Keys are bare where they can be. A text takes the first form that shows it without escapes: a basic
string, a literal string, then their forms over several lines; only a text that fits none of them is
escaped. A tab is always escaped between double quotes.
-/

namespace LayeredSettings.Toml

/-- The character is a control of ASCII. -/
def isControl (c : Char) : Bool := c.toNat < 0x20 || c.toNat == 0x7f

/-- Four hexadecimal digits in capitals. -/
def hexFour (n : Nat) : List Char :=
  [n / 4096 % 16, n / 256 % 16, n / 16 % 16, n % 16].map fun d =>
    ((Nat.toDigits 16 d).headD '0').toUpper

/-- A character inside a basic string; a quote is escaped. -/
def basicChar (c : Char) : List Char :=
  match c with
  | '\x08' => ['\\', 'b']
  | '\t' => ['\\', 't']
  | '\n' => ['\\', 'n']
  | '\x0c' => ['\\', 'f']
  | '\r' => ['\\', 'r']
  | '"' => ['\\', '"']
  | '\\' => ['\\', '\\']
  | c => if isControl c then ['\\', 'u'] ++ hexFour c.toNat else [c]

/-- The characters of a basic string over several lines: newlines stay, and of quotes in a row each
third is escaped. `quotes` counts the unescaped quotes in a row so far. -/
def multilineBasic (quotes : Nat) : List Char → List Char
  | [] => []
  | '"' :: rest =>
    if quotes = 2 then '\\' :: '"' :: multilineBasic 0 rest
    else '"' :: multilineBasic (quotes + 1) rest
  | '\n' :: rest => '\n' :: multilineBasic 0 rest
  | c :: rest => basicChar c ++ multilineBasic 0 rest

/-- Three of a character stand in a row. -/
def hasTriple (c : Char) : List Char → Bool
  | [] => false
  | d :: rest => [c, c, c].isPrefixOf (d :: rest) || hasTriple c rest

/-- The written form of a key. -/
def writtenKey (key : String) : List Char :=
  let cs := key.toList
  let plain (c : Char) : Bool := !isControl c || c == '\t'
  if !cs.isEmpty && cs.all fun c => c.isAlphanum || c == '_' || c == '-' then cs
  else if cs.all fun c => plain c && c != '\\' && c != '"' then '"' :: cs.flatMap basicChar ++ ['"']
  else if cs.all fun c => plain c && c != '\'' then '\'' :: cs ++ ['\'']
  else '"' :: cs.flatMap basicChar ++ ['"']

/-- The written form of a text. -/
def writtenString (s : String) : List Char :=
  let cs := s.toList
  let lines := cs.contains '\n'
  let opening := if lines then ['\n'] else []
  let plain := cs.all fun c => !isControl c || c == '\t' || c == '\n'
  let basic := ['"', '"', '"']
  let literal := ['\'', '\'', '\'']
  if plain && !lines && !cs.contains '\\' && !cs.contains '"' then
    '"' :: cs.flatMap basicChar ++ ['"']
  else if plain && !lines && !cs.contains '\'' then '\'' :: cs ++ ['\'']
  else if plain && !cs.contains '\\' && !hasTriple '"' cs then
    basic ++ opening ++ multilineBasic 0 cs ++ basic
  else if plain && !hasTriple '\'' cs then literal ++ opening ++ cs ++ literal
  else if lines then basic ++ opening ++ multilineBasic 0 cs ++ basic
  else '"' :: cs.flatMap basicChar ++ ['"']

/-- The written form of a raw value. -/
def writtenScalar : Raw → List Char
  | .boolean b => (truthText b).toList
  | .integer i => (integerText i.toInt).toList
  | .float x => (x.text .stored "nan").toList
  | .text s => writtenString s

/-- A line that gives a key a value. -/
def keyLine (key : String) (raw : Raw) : List Char :=
  writtenKey key ++ [' ', '=', ' '] ++ writtenScalar raw ++ ['\n']

/-- The header of a table that lies inside others, outermost first. -/
def header (path : List String) : List Char :=
  '[' :: ['.'].intercalate (path.map writtenKey) ++ [']', '\n']

/-- A table of scalars: its header and a line for each member. -/
def tableText (path : List String) (members : List (String × Raw)) : List Char :=
  header path ++ members.flatMap fun (key, raw) => keyLine key raw

end LayeredSettings.Toml
