import LayeredSettings.Text.Basic
import LayeredSettings.Text.Escape.Table

/-!
# Escaped text

The form in which a text is quoted inside a message: quotes and backslashes get a backslash, the
usual controls get their letter, and every other character without a visible form is written by its
code point. A character that would join the one before it is written by its code point at the start,
where nothing stands before it.
-/

namespace LayeredSettings.Text

/-- The character is not written as it is. -/
def isUnprintable (c : Char) : Bool :=
  inRanges unprintableRanges c.toNat

/-- The character extends the one before it. -/
def isExtender (c : Char) : Bool :=
  inRanges extenderRanges c.toNat

/-- The lower-case hexadecimal digits of a number, without leading zeros. -/
def hexDigits (n : Nat) : List Char :=
  Nat.toDigits 16 n

/-- A character by its code point, such as `\u{1f}`. -/
def escapedCode (c : Char) : List Char :=
  ['\\', 'u', '{'] ++ hexDigits c.toNat ++ ['}']

/-- The escaped form of one character; `atStart` tells that nothing stands before it. -/
def escapedChar (atStart : Bool) (c : Char) : List Char :=
  match c with
  | '\x00' => ['\\', '0']
  | '\t' => ['\\', 't']
  | '\r' => ['\\', 'r']
  | '\n' => ['\\', 'n']
  | '"' => ['\\', '"']
  | '\'' => ['\\', '\'']
  | '\\' => ['\\', '\\']
  | c => if (atStart && isExtender c) || isUnprintable c then escapedCode c else [c]

/-- The escaped form of a text. -/
def escaped (s : String) : String :=
  match s.toList with
  | [] => ""
  | c :: rest => String.ofList (escapedChar true c ++ rest.flatMap (escapedChar false))

/-- A character between double quotes, where a single quote needs no backslash. -/
def quotedChar (c : Char) : List Char :=
  if c = '\'' then [c] else escapedChar true c

/-- The text between double quotes. -/
def quoted (s : String) : String :=
  String.ofList (['"'] ++ s.toList.flatMap quotedChar ++ ['"'])

end LayeredSettings.Text
