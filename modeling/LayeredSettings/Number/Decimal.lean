import LayeredSettings.Number.Binary64

/-!
# Decimal numbers

A decimal number is a sign, the digits as one natural number, and a power of ten. This module reads
the usual written form (`12`, `-0.5`, `.5`, `5.`, `1e-7`) and gives the floating-point number that
lies nearest. It also reads the integers from `-2 ^ 63` to `2 ^ 63 - 1`, those of 64 bits.
-/

namespace LayeredSettings

/-- The number `digits * 10 ^ exponent`, negated if asked. -/
structure Decimal where
  negative : Bool
  digits : Nat
  exponent : Int
  deriving DecidableEq

namespace Decimal

/-- The value of a run of digits, the most significant first. -/
def ofDigits (cs : List Char) : Nat :=
  cs.foldl (fun n c => 10 * n + (c.toNat - '0'.toNat)) 0

/-- The digits of a number, the most significant first. -/
def digitsOf (n : Nat) : List Char := Nat.toDigits 10 n

/-- A sign, if one stands in front, and the rest; true is minus. -/
def splitSign : List Char → Bool × List Char
  | '-' :: rest => (true, rest)
  | '+' :: rest => (false, rest)
  | cs => (false, cs)

/-- The leading digits and the rest. -/
def splitDigits (cs : List Char) : List Char × List Char :=
  (cs.takeWhile Char.isDigit, cs.dropWhile Char.isDigit)

/-- The power of ten written at the end of a number; an empty rest is the power 0. -/
def exponent? : List Char → Option Int
  | [] => some 0
  | c :: rest =>
    if c = 'e' ∨ c = 'E' then
      let (negative, rest) := splitSign rest
      let (digits, rest) := splitDigits rest
      if digits.isEmpty ∨ ¬ rest.isEmpty then none
      else
        let value : Int := ofDigits digits
        some (if negative then -value else value)
    else none

/-- Reads an unsigned number: digits with at most one point, a digit on one side of it, and at most
one power of ten. -/
def unsigned? (negative : Bool) (cs : List Char) : Option Decimal :=
  let (whole, rest) := splitDigits cs
  let (fraction, rest) :=
    match rest with
    | '.' :: rest => splitDigits rest
    | rest => ([], rest)
  if whole.isEmpty && fraction.isEmpty then none
  else
    (exponent? rest).map fun exponent =>
      ⟨negative, ofDigits (whole ++ fraction), exponent - fraction.length⟩

/-- The number of the leading digit's place: the number is below `10 ^ top` and not below a tenth of
it. -/
def top (d : Decimal) : Int := (digitsOf d.digits).length + d.exponent

/-- The quotient of naturals that the absolute value is. -/
def ratio (d : Decimal) : Nat × Nat :=
  if 0 ≤ d.exponent then (d.digits * Nat.pow 10 d.exponent.toNat, 1)
  else (d.digits, Nat.pow 10 (-d.exponent).toNat)

end Decimal

namespace Binary64

/-- The floating-point number nearest to a decimal one. Beyond `10 ^ 310` everything is infinite and
below `10 ^ (-330)` everything is zero, whatever the digits. -/
def ofDecimal (d : Decimal) : Binary64 :=
  if d.digits = 0 then zero d.negative
  else if 310 < d.top then infinite d.negative
  else if d.top < -330 then zero d.negative
  else ofRatio d.negative d.ratio.1 d.ratio.2

/-- Reads a number: `nan`, `inf` and `infinity` in any case, or a decimal number, each with an
optional sign; no blanks and nothing around it. -/
def read? (cs : List Char) : Option Binary64 :=
  let (negative, rest) := Decimal.splitSign cs
  let word := String.ofList (rest.map Char.toLower)
  if word = "nan" then some nan
  else if word = "inf" ∨ word = "infinity" then some (infinite negative)
  else (Decimal.unsigned? negative rest).map ofDecimal

end Binary64

/-- The integer in 64 bits, if it is in range. -/
def int64? (i : Int) : Option Int64 :=
  if Int64.minValue.toInt ≤ i ∧ i ≤ Int64.maxValue.toInt then some (Int64.ofInt i) else none

/-- Reads a whole number of 64 bits: digits with an optional sign, in range. -/
def readInt64? (cs : List Char) : Option Int64 :=
  let (negative, digits) := Decimal.splitSign cs
  if digits.isEmpty || !digits.all Char.isDigit then none
  else
    let value : Int := Decimal.ofDigits digits
    int64? (if negative then -value else value)

end LayeredSettings
