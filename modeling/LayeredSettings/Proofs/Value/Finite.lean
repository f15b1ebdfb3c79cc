import LayeredSettings.Definition
import LayeredSettings.Proofs.Error
import LayeredSettings.Proofs.Value.RoundTrip

/-!
# Which raw values give finite numbers

A cast to a number goes by the text of what is cast, except where the raw value is a number that is
not finite: its text is refused, the number itself is taken as it is.
-/

namespace LayeredSettings

/-- The raw value is a number that is infinite or undefined. -/
def Raw.IsNonFinite (raw : Raw) : Prop := ∃ x, raw = .float x ∧ x.isFinite = false

namespace Binary64

/-- A whole number of few digits is read as the quotient by one. -/
private theorem ofDecimal_whole (negative : Bool) {n : ℕ} (hn : n < Nat.pow 10 310) :
    ofDecimal ⟨negative, n, 0⟩ = ofRatio negative n 1 := by
  by_cases hzero : n = 0
  · have hrank : rankOfRatio 0 1 = 0 := by decide +kernel
    unfold ofDecimal ofRatio
    rw [hzero, if_pos rfl, hrank]
    rfl
  · have hlength := (Decimal.length_digitsOf_le_iff (by decide)).mpr hn
    have htop : (Decimal.mk negative n 0).top = (Decimal.digitsOf n).length + 0 := rfl
    have hratio : (Decimal.mk negative n 0).ratio = (n * 1, 1) := rfl
    unfold ofDecimal
    rw [if_neg hzero, if_neg (by omega), if_neg (by omega), hratio, Nat.mul_one]

/-- The digits of an integer of 64 bits are read as the number nearest to the integer. -/
theorem read?_integerText (i : Int64) :
    read? (integerText i.toInt).toList = some (ofInt i.toInt) := by
  have hdigits := Decimal.isDigit_of_mem_digitsOf (n := i.toInt.natAbs)
  obtain ⟨c, cs, hform⟩ := List.exists_cons_of_ne_nil (Decimal.digitsOf_ne_nil i.toInt.natAbs)
  have hc : c.isDigit = true := hdigits c (hform ▸ List.mem_cons_self)
  have hsmall : i.toInt.natAbs < Nat.pow 10 310 := by
    have hlow := i.le_toInt
    have hhigh := i.toInt_lt
    have hbound : 9223372036854775808 < Nat.pow 10 310 := by decide +kernel
    omega
  have hnil : ∀ c ∈ ([] : List Char).head?, c.isDigit = false ∧ c ≠ '.' := by simp
  have hread := Decimal.unsigned?_whole (decide (i.toInt < 0)) (Decimal.digitsOf_ne_nil _) hdigits
    hnil rfl
  rw [List.append_nil, Decimal.ofDigits_digitsOf] at hread
  unfold integerText
  rw [String.toList_ofList, hform, read?_digit _ hc, ← hform, hread, Option.map_some,
    ofDecimal_whole _ hsmall]
  rfl

end Binary64

/-- The text of an integer gives the number that the integer gives. -/
theorem toFloat?_integerText (i : Int64) :
    (Raw.text (integerText i.toInt)).toFloat? = some (Binary64.ofInt i.toInt) := by
  unfold Raw.toFloat?
  dsimp only
  rw [Text.trimBlanks_of_forall isBlank_of_mem_integerText, Binary64.read?_integerText,
    Option.filter_some, if_pos (Binary64.isFinite_ofInt i)]

/-- The text of a raw value gives the number that the raw value gives, provided it is finite. -/
theorem toFloat?_toText (raw : Raw) :
    (Raw.text raw.toText).toFloat? = raw.toFloat?.filter Binary64.isFinite := by
  cases raw with
  | boolean b => cases b <;> decide +kernel
  | integer i =>
    have hnative : (Raw.integer i).toFloat? = some (Binary64.ofInt i.toInt) := rfl
    rw [hnative, Option.filter_some, if_pos (Binary64.isFinite_ofInt i)]
    exact toFloat?_integerText i
  | float x =>
    have hnative : (Raw.float x).toFloat? = some x := rfl
    rw [hnative, Option.filter_some]
    by_cases hx : x.isFinite = true
    · rw [if_pos hx]
      exact toFloat?_floatText hx
    · rw [if_neg hx]
      cases x with
      | nan => decide +kernel
      | infinite negative => cases negative <;> decide +kernel
      | finite negative magnitude => exact absurd rfl hx
  | text s =>
    unfold Raw.toText Raw.toFloat?
    dsimp only
    rw [Option.filter_filter]
    simp only [Bool.and_self]

/-- A raw value that gives a number gives a finite one, unless it is itself no finite number. -/
theorem isFinite_iff_of_toFloat? {raw : Raw} {x : Binary64} (hraw : raw.toFloat? = some x) :
    x.isFinite = true ↔ ¬ raw.IsNonFinite := by
  cases raw with
  | boolean b => cases hraw
  | integer i =>
    obtain rfl : Binary64.ofInt i.toInt = x := Option.some.inj hraw
    simp [Raw.IsNonFinite, Binary64.isFinite_ofInt]
  | float y =>
    obtain rfl : y = x := Option.some.inj hraw
    simp [Raw.IsNonFinite]
  | text s =>
    have hfinite : x.isFinite = true := (Option.filter_eq_some_iff.mp hraw).2
    simp [Raw.IsNonFinite, hfinite]

/-- A raw value whose text is refused is refused itself, unless it is a number that is infinite or
undefined. -/
theorem toFloat?_eq_none_of_toText {raw : Raw} (htext : (Raw.text raw.toText).toFloat? = none)
    (hraw : ¬ raw.IsNonFinite) : raw.toFloat? = none := by
  rw [toFloat?_toText] at htext
  cases hnative : raw.toFloat? with
  | none => rfl
  | some x =>
    rw [hnative, Option.filter_some, if_pos ((isFinite_iff_of_toFloat? hnative).mpr hraw)] at htext
    cases htext

variable {home : Home} {d : Definition} {raw : Raw} {value : Value}

/-- A cast to a number is refused exactly if the raw value gives none. -/
theorem Kind.cast_float_eq_error_iff :
    Kind.float.cast home raw = .error .notFloat ↔ raw.toFloat? = none := by
  unfold Kind.cast
  cases raw.toFloat? <;> simp

/-- What a setting for numbers makes of a raw value is the number that the raw value gives. -/
theorem Definition.exists_float_of_cast (hkind : d.kind = .float)
    (hcast : d.cast home raw = .ok value) :
    ∃ x, raw.toFloat? = some x ∧ value = .float x := by
  obtain ⟨made, hmade, hcast⟩ := bind_eq_ok hcast
  obtain ⟨_, -, hcast⟩ := bind_eq_ok hcast
  cases hcast
  rw [hkind] at hmade
  cases Kind.cast_eq_ok_iff.mp hmade with
  | @float x hread => exact ⟨x, hread, rfl⟩

/-- A setting for numbers refuses a raw value that gives none, before any other check. -/
theorem Definition.cast_of_toFloat?_eq_none (hkind : d.kind = .float) (hraw : raw.toFloat? = none) :
    d.cast home raw = .error .notFloat := by
  unfold Definition.cast
  rw [hkind, Kind.cast_float_eq_error_iff.mpr hraw]
  rfl

end LayeredSettings
