import LayeredSettings.Number.Decimal

/-!
# The shortest decimal that reads back

A finite number is written with the fewest digits that still read back as that number. For each
count of digits the two decimals around the number are tried; the first count with a success wins,
of two successes the nearer one, and a rule settles an exact tie.
-/

namespace LayeredSettings

/-- Which of two equally near decimals is written. -/
inductive Tie where
  | up
  | even
  deriving DecidableEq

namespace Decimal

/-- The same number with the zeros at the end of the digits moved into the power of ten. -/
def stripZeros : Nat → Decimal → Decimal
  | 0, d => d
  | fuel + 1, d =>
    if d.digits ≠ 0 ∧ d.digits % 10 = 0 then
      stripZeros fuel { d with digits := d.digits / 10, exponent := d.exponent + 1 }
    else d

/-- The decimal without zeros at the end of its digits. -/
def normal (d : Decimal) : Decimal := stripZeros (digitsOf d.digits).length d

end Decimal

namespace Binary64

/-- The decimal reads back as the magnitude. -/
def readsBack (magnitude : Fin finiteCount) (d : Decimal) : Bool :=
  ofDecimal d = finite false magnitude

/-- The power of ten of the leading digit of `num / den`, which is at least `10 ^ (-330)`. -/
def leadingPower (num den : Nat) : Int :=
  (Decimal.digitsOf (num * Nat.pow 10 330 / den)).length - 331

/-- The decimal of `count` digits that is written for the magnitude, if one reads back. -/
def candidate? (tie : Tie) (magnitude : Fin finiteCount) (leading : Int) (count : Nat) :
    Option Decimal :=
  let places : Int := count - 1 - leading
  let num := if 0 ≤ places then units magnitude * Nat.pow 10 places.toNat else units magnitude
  let den := if 0 ≤ places then unitsInOne else unitsInOne * Nat.pow 10 (-places).toNat
  let below : Decimal := ⟨false, num / den, -places⟩
  let above : Decimal := ⟨false, num / den + 1, -places⟩
  let twice := 2 * (num % den)
  let nearer :=
    if twice < den then below
    else if den < twice then above
    else match tie with
      | .up => above
      | .even => if below.digits % 2 = 0 then below else above
  if readsBack magnitude nearer then some nearer
  else if readsBack magnitude below then some below
  else if readsBack magnitude above then some above
  else none

/-- The exact decimal of a magnitude. -/
def exact (magnitude : Fin finiteCount) : Decimal :=
  ⟨false, units magnitude * Nat.pow 5 1074, -1074⟩

/-- The shortest decimal of a magnitude. Seventeen digits always suffice; the exact decimal stands
behind them. -/
def shortest (tie : Tie) (magnitude : Fin finiteCount) : Decimal :=
  let leading := leadingPower (units magnitude) unitsInOne
  let found := (List.range 17).findSome? fun n => candidate? tie magnitude leading (n + 1)
  (found.getD (exact magnitude)).normal

end Binary64

end LayeredSettings
