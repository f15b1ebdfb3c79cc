import LayeredSettings.Json.Scalar

/-!
# Reading a JSON scalar

Reads a text that holds one JSON scalar and blanks around it. Numbers keep at most the digits that
fit 64 bits and are then scaled by a power of ten, so a long number may come out a unit away from
the nearest floating-point number.
-/

namespace LayeredSettings.Json

/-- The white space between JSON tokens. -/
def isSpace (c : Char) : Bool := c == ' ' || c == '\t' || c == '\n' || c == '\r'

/-- The value of a hexadecimal digit. -/
def hexValue? (c : Char) : Option Nat :=
  if c.isDigit then some (c.toNat - '0'.toNat)
  else if 'a' ≤ c ∧ c ≤ 'f' then some (c.toNat - 'a'.toNat + 10)
  else if 'A' ≤ c ∧ c ≤ 'F' then some (c.toNat - 'A'.toNat + 10)
  else none

/-- The number that four hexadecimal digits stand for. -/
def hexFour? (a b c d : Char) : Option Nat := do
  let a ← hexValue? a
  let b ← hexValue? b
  let c ← hexValue? c
  let d ← hexValue? d
  return ((a * 16 + b) * 16 + c) * 16 + d

/-- The character of an escape of one letter. -/
def escapeLetter? : Char → Option Char
  | '"' => some '"'
  | '\\' => some '\\'
  | '/' => some '/'
  | 'b' => some '\x08'
  | 'f' => some '\x0c'
  | 'n' => some '\n'
  | 'r' => some '\r'
  | 't' => some '\t'
  | _ => none

/-- The number is the first half of a pair that stands for one character. -/
def isLeadingHalf (n : Nat) : Bool := 0xd800 ≤ n && n < 0xdc00

/-- The number is the second half of a pair. -/
def isTrailingHalf (n : Nat) : Bool := 0xdc00 ≤ n && n < 0xe000

/-- The rest of a quoted text after the opening quote, up to the closing one, and what follows. -/
def quotedRest? : List Char → Option (List Char × List Char)
  | [] => none
  | '"' :: rest => some ([], rest)
  | '\\' :: 'u' :: a :: b :: c :: d :: '\\' :: 'u' :: e :: f :: g :: h :: rest => do
    let first ← hexFour? a b c d
    if isLeadingHalf first then
      let second ← hexFour? e f g h
      guard (isTrailingHalf second)
      let code := (first - 0xd800) * 0x400 + (second - 0xdc00) + 0x10000
      let (cs, rest) ← quotedRest? rest
      return (Char.ofNat code :: cs, rest)
    else
      guard (!isTrailingHalf first)
      let (cs, rest) ← quotedRest? ('\\' :: 'u' :: e :: f :: g :: h :: rest)
      return (Char.ofNat first :: cs, rest)
  | '\\' :: 'u' :: a :: b :: c :: d :: rest => do
    let code ← hexFour? a b c d
    guard (!isLeadingHalf code && !isTrailingHalf code)
    let (cs, rest) ← quotedRest? rest
    return (Char.ofNat code :: cs, rest)
  | '\\' :: letter :: rest => do
    let c ← escapeLetter? letter
    let (cs, rest) ← quotedRest? rest
    return (c :: cs, rest)
  | c :: rest => do
    guard (0x20 ≤ c.toNat && c != '\\')
    let (cs, rest) ← quotedRest? rest
    return (c :: cs, rest)

/-- One more than the largest number of 64 bits. -/
def wordCount : Nat := 0x10000000000000000

/-- The digits of a number kept so far, its power of ten, and what follows. -/
structure Mantissa where
  significand : Nat
  exponent : Int
  rest : List Char

/-- Reads digits before the point; each digit that no longer fits raises the power of ten. -/
def wholeDigits (significand : Nat) (full : Bool) (exponent : Int) : List Char → Mantissa
  | [] => ⟨significand, exponent, []⟩
  | c :: rest =>
    if c.isDigit then
      let next := 10 * significand + (c.toNat - '0'.toNat)
      if full || wordCount ≤ next then wholeDigits significand true (exponent + 1) rest
      else wholeDigits next false exponent rest
    else ⟨significand, exponent, c :: rest⟩

/-- Reads digits after the point; digits from the first that no longer fits are dropped. -/
def fractionDigits (significand : Nat) (full : Bool) (exponent : Int) : List Char → Mantissa
  | [] => ⟨significand, exponent, []⟩
  | c :: rest =>
    if c.isDigit then
      let next := 10 * significand + (c.toNat - '0'.toNat)
      if full || wordCount ≤ next then fractionDigits significand true exponent rest
      else fractionDigits next false (exponent - 1) rest
    else ⟨significand, exponent, c :: rest⟩

/-- `x` times `10 ^ exponent`, scaled in steps of at most `10 ^ 308`; nothing if it is too large. -/
def scaled? : Nat → Fin finiteCount → Int → Option (Fin finiteCount)
  | 0, _, _ => none
  | fuel + 1, x, exponent =>
    if exponent.natAbs ≤ 308 then
      match Binary64.ofRatio false (Nat.pow 10 exponent.natAbs) 1 with
      | .finite _ power =>
        match if 0 ≤ exponent then Binary64.scaleUp x power else Binary64.scaleDown x power with
        | .finite _ y => some y
        | _ => none
      | _ => none
    else if x.val = 0 then some x
    else if 0 ≤ exponent then none
    else
      match Binary64.ofRatio false (Nat.pow 10 308) 1 with
      | .finite _ power =>
        match Binary64.scaleDown x power with
        | .finite _ y => scaled? fuel y (exponent + 308)
        | _ => none
      | _ => none

/-- The floating-point number of a significand and a power of ten. -/
def floatOf? (negative : Bool) (significand : Nat) (exponent : Int) : Option Scalar :=
  match Binary64.ofRatio false significand 1 with
  | .finite _ x => (scaled? 4 x exponent).map (Scalar.float negative)
  | _ => none

/-- Reads the power of ten at the end of a number, and gives the number and what follows. -/
def power? (negative : Bool) (m : Mantissa) : List Char → Option (Scalar × List Char)
  | rest => do
    let (down, rest) := Decimal.splitSign rest
    let (digits, rest) := Decimal.splitDigits rest
    guard !digits.isEmpty
    let size := Decimal.ofDigits digits
    if 0x80000000 ≤ size then
      guard (m.significand = 0 || down)
      return (.float negative Binary64.zeroMagnitude, rest)
    else
      let exponent := if down then m.exponent - size else m.exponent + size
      let x ← floatOf? negative m.significand exponent
      return (x, rest)

/-- Reads a number after its minus sign, and gives it and what follows. A whole number of 64 bits
stays an integer; minus zero and every other number is a floating-point number. -/
def number? (negative : Bool) (cs : List Char) : Option (Scalar × List Char) := do
  let (digits, after) := Decimal.splitDigits cs
  guard !digits.isEmpty
  guard (digits.head? ≠ some '0' || digits.length = 1)
  let m := wholeDigits 0 false 0 cs
  match after with
  | '.' :: fraction =>
    guard ((fraction.head?.map Char.isDigit).getD false)
    let m := fractionDigits m.significand false m.exponent fraction
    match m.rest with
    | c :: rest =>
      if c = 'e' ∨ c = 'E' then power? negative m rest
      else do return (← floatOf? negative m.significand m.exponent, c :: rest)
    | [] => do return (← floatOf? negative m.significand m.exponent, [])
  | c :: rest =>
    if c = 'e' ∨ c = 'E' then power? negative m rest else whole? m after
  | [] => whole? m after
where
  /-- The number without a point and without a power of ten. -/
  whole? (m : Mantissa) (after : List Char) : Option (Scalar × List Char) :=
    let value : Int := if negative then -(m.significand : Int) else m.significand
    let float? := (floatOf? negative m.significand m.exponent).map (·, after)
    match int64? value with
    | some i =>
      if m.exponent = 0 ∧ ¬ (negative ∧ value = 0) then some (.integer i, after) else float?
    | none => float?

/-- Reads one scalar at the start of a text, and gives what follows. -/
def scalar? : List Char → Option (Scalar × List Char)
  | 'n' :: 'u' :: 'l' :: 'l' :: rest => some (.null, rest)
  | 't' :: 'r' :: 'u' :: 'e' :: rest => some (.boolean true, rest)
  | 'f' :: 'a' :: 'l' :: 's' :: 'e' :: rest => some (.boolean false, rest)
  | '"' :: rest => (quotedRest? rest).map fun (cs, rest) => (.string (String.ofList cs), rest)
  | '-' :: rest => number? true rest
  | cs => number? false cs

/-- Reads a text that is one scalar with blanks around it. -/
def read? (s : String) : Option Scalar := do
  let (value, rest) ← scalar? (s.toList.dropWhile isSpace)
  guard (rest.all isSpace)
  return value

end LayeredSettings.Json

namespace LayeredSettings

/-- The raw value that a JSON text stands for: any scalar but null. -/
def Raw.ofJson? (s : String) : Option Raw := do
  match ← Json.read? s with
  | .null => none
  | .boolean b => some (.boolean b)
  | .integer i => some (.integer i)
  | .float negative magnitude => some (.float (.finite negative magnitude))
  | .string s => some (.text s)

end LayeredSettings
