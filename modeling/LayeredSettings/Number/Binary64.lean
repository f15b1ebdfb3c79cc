/-!
# Binary floating-point numbers of 64 bits

A number of the format is kept by its sign and its *magnitude*: the rank of its absolute value among
the finite absolute values, zero having rank 0. Ranks are ordered as the values are, and each block
of `2 ^ 52` ranks is one binade. Values are exact multiples of `2 ^ (-1074)`, so rounding, order and
conversion to and from integers are questions about natural numbers.
-/

namespace LayeredSettings

/-- Ranks in one binade. -/
abbrev binade : Nat := 0x10000000000000

/-- The number of finite magnitudes. -/
abbrev finiteCount : Nat := 2047 * binade

/-- A binary floating-point number of 64 bits. One value stands for everything that is no number. -/
inductive Binary64 where
  | nan
  | infinite (negative : Bool)
  | finite (negative : Bool) (magnitude : Fin finiteCount)
  deriving DecidableEq

namespace Binary64

/-- The absolute value of rank `magnitude`, counted in units of `2 ^ (-1074)`. -/
def units (magnitude : Nat) : Nat :=
  if magnitude < binade then magnitude
  else (binade + magnitude % binade) * Nat.pow 2 (magnitude / binade - 1)

/-- Units in the number one. -/
abbrev unitsInOne : Nat := Nat.pow 2 1074

/-- The integer nearest to `num / den`; of two the even one. -/
def roundHalfEven (num den : Nat) : Nat :=
  let quotient := num / den
  let twice := 2 * (num % den)
  if twice < den then quotient
  else if den < twice then quotient + 1
  else if quotient % 2 = 0 then quotient
  else quotient + 1

/-- The rank of the magnitude nearest to `num / den`; of two the even one. The rank is not bounded:
from `finiteCount` on the quotient is too large for the format. -/
def rankOfRatio (num den : Nat) : Nat :=
  let scaled := num * unitsInOne
  let shift := Nat.log2 (scaled / den) - 52
  shift * binade + roundHalfEven scaled (den * Nat.pow 2 shift)

/-- The number of a rank and a sign, infinite from `finiteCount` on. -/
def ofRank (negative : Bool) (rank : Nat) : Binary64 :=
  if h : rank < finiteCount then finite negative ⟨rank, h⟩ else infinite negative

/-- The number nearest to `num / den`, negated on request. -/
def ofRatio (negative : Bool) (num den : Nat) : Binary64 :=
  ofRank negative (rankOfRatio num den)

/-- The magnitude of zero. -/
def zeroMagnitude : Fin finiteCount := ⟨0, by decide⟩

/-- Zero with a sign. -/
def zero (negative : Bool) : Binary64 := finite negative zeroMagnitude

/-- The number nearest to an integer. -/
def ofInt (i : Int) : Binary64 := ofRatio (i < 0) i.natAbs 1

/-- Neither infinite nor undefined. -/
def isFinite : Binary64 → Bool
  | finite .. => true
  | _ => false

/-- The place of a number in the numeric order: both zeros share one place. -/
def place? : Binary64 → Option Int
  | nan => none
  | infinite negative => some (if negative then -(finiteCount : Int) else finiteCount)
  | finite negative magnitude => some (if negative then -(magnitude.val : Int) else magnitude.val)

/-- Numeric equality: the zeros are equal, and what is no number equals nothing. -/
def same (x y : Binary64) : Bool :=
  match x.place?, y.place? with
  | some a, some b => a == b
  | _, _ => false

/-- Numeric order, false where either side is no number. -/
def less (x y : Binary64) : Bool :=
  match x.place?, y.place? with
  | some a, some b => a < b
  | _, _ => false

/-- Greater than zero. -/
def isPositive (x : Binary64) : Bool := (zero false).less x

/-- Zero or greater. -/
def isNonNegative (x : Binary64) : Bool := (zero false).less x || (zero false).same x

/-- The integer that a number is, if it has no fraction. -/
def toInt? : Binary64 → Option Int
  | finite negative magnitude =>
    let count := units magnitude.val
    if count % unitsInOne = 0 then
      let whole : Int := count / unitsInOne
      some (if negative then -whole else whole)
    else none
  | _ => none

/-- The product of two positive finite numbers, rounded. -/
def scaleUp (x : Fin finiteCount) (y : Fin finiteCount) : Binary64 :=
  ofRatio false (units x.val * units y.val) (unitsInOne * unitsInOne)

/-- The quotient of two positive finite numbers, rounded. -/
def scaleDown (x : Fin finiteCount) (y : Fin finiteCount) : Binary64 :=
  ofRatio false (units x.val) (units y.val)

end Binary64

end LayeredSettings
