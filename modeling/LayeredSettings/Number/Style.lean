import LayeredSettings.Number.Shortest

/-!
# Written floating-point numbers

How a floating-point number is written is a choice of a few parameters: where the positional form
ends, the sign of a positive power, and the tie rule. Three styles are used: for values shown as
text, for numbers inside JSON, and for numbers inside a profiles file.
-/

namespace LayeredSettings

/-- The parameters of a written floating-point number. The bounds are powers of ten of the leading
digit; outside them the number is written with a power of ten. -/
structure FloatStyle where
  lowest : Option Int
  highest : Option Int
  plus : Bool
  tie : Tie

namespace FloatStyle

/-- Values shown as text: positional from `10 ^ (-4)` and below `10 ^ 16`; a tie goes up. -/
def shown : FloatStyle := ⟨some (-4), some 15, false, .up⟩

/-- Numbers inside JSON: positional from `10 ^ (-5)` and below `10 ^ 16`; a positive power has a
plus sign; a tie goes to the even digit. -/
def json : FloatStyle := ⟨some (-5), some 15, true, .even⟩

/-- Numbers inside a profiles file: always positional; a tie goes up. -/
def stored : FloatStyle := ⟨none, none, false, .up⟩

/-- The leading digit's power of ten is within the positional range. -/
def isPositional (style : FloatStyle) (leading : Int) : Bool :=
  style.lowest.all (· ≤ leading) && style.highest.all (leading ≤ ·)

end FloatStyle

namespace Decimal

/-- The digits with the point in its place; a whole number ends in `.0`. -/
def positional (d : Decimal) : List Char :=
  let digits := digitsOf d.digits
  if 0 ≤ d.exponent then digits ++ List.replicate d.exponent.toNat '0' ++ ['.', '0']
  else if 0 < d.top then
    digits.take d.top.toNat ++ '.' :: digits.drop d.top.toNat
  else ['0', '.'] ++ List.replicate (-d.top).toNat '0' ++ digits

/-- One digit before the point and a power of ten behind; no point after a single digit. -/
def scientific (plus : Bool) (d : Decimal) : List Char :=
  let power := d.top - 1
  let mantissa :=
    match digitsOf d.digits with
    | [] => []
    | [c] => [c]
    | c :: rest => c :: '.' :: rest
  let sign := if power < 0 then ['-'] else if plus then ['+'] else []
  mantissa ++ 'e' :: sign ++ digitsOf power.natAbs

end Decimal

namespace Binary64

/-- The text of an unsigned magnitude. -/
def magnitudeText (style : FloatStyle) (magnitude : Fin finiteCount) : List Char :=
  if magnitude.val = 0 then ['0', '.', '0']
  else
    let d := shortest style.tie magnitude
    if style.isPositional (d.top - 1) then d.positional else d.scientific style.plus

/-- The sign in front of a written number. -/
def signText (negative : Bool) : List Char := if negative then ['-'] else []

/-- The text of a number; `undefined` is the word for what is no number. -/
def text (style : FloatStyle) (undefined : String) : Binary64 → String
  | nan => undefined
  | infinite negative => String.ofList (signText negative ++ ['i', 'n', 'f'])
  | finite negative magnitude =>
    String.ofList (signText negative ++ magnitudeText style magnitude)

end Binary64

end LayeredSettings
