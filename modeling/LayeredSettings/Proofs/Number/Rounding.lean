import LayeredSettings.Number.Shortest
import LayeredSettings.Proofs.Number.Digits

/-!
# Rounding quotients and decimals

Rounding looks at a quotient only through its value: a common factor above and below changes
nothing, and neither does a power of ten that moves between the digits of a decimal number and its
exponent. A quotient that is a number of the format is rounded to that number, and an integer of
64 bits never overflows.
-/

namespace LayeredSettings.Binary64

/-- A common factor does not change to which integer a quotient is rounded. -/
theorem roundHalfEven_mul_left {k : ℕ} (hk : 0 < k) (num den : ℕ) :
    roundHalfEven (k * num) (k * den) = roundHalfEven num den := by
  have htwice : 2 * (k * (num % den)) = k * (2 * (num % den)) := Nat.mul_left_comm 2 k _
  unfold roundHalfEven
  dsimp only
  rw [Nat.mul_div_mul_left _ _ hk, Nat.mul_mod_mul_left, htwice]
  simp only [Nat.mul_lt_mul_left hk]

/-- A quotient that is whole is not rounded. -/
theorem roundHalfEven_mul_self {den : ℕ} (hden : 0 < den) (whole : ℕ) :
    roundHalfEven (whole * den) den = whole := by
  unfold roundHalfEven
  dsimp only
  rw [Nat.mul_div_cancel _ hden, Nat.mul_mod_left, if_pos (by omega)]

/-- Rounding moves a quotient up by less than one. -/
theorem roundHalfEven_le (num den : ℕ) : roundHalfEven num den ≤ num / den + 1 := by
  unfold roundHalfEven
  dsimp only
  split
  · omega
  · split
    · omega
    · split <;> omega

/-- A common factor does not change the rank of a quotient. -/
theorem rankOfRatio_mul_left {k : ℕ} (hk : 0 < k) (num den : ℕ) :
    rankOfRatio (k * num) (k * den) = rankOfRatio num den := by
  unfold rankOfRatio
  dsimp only
  rw [Nat.mul_assoc k num, Nat.mul_div_mul_left _ _ hk, Nat.mul_assoc k den,
    roundHalfEven_mul_left hk]

/-- A common factor does not change the number nearest to a quotient. -/
theorem ofRatio_mul_left {k : ℕ} (hk : 0 < k) (negative : Bool) (num den : ℕ) :
    ofRatio negative (k * num) (k * den) = ofRatio negative num den := by
  unfold ofRatio
  rw [rankOfRatio_mul_left hk]

/-- Powers of two are positive. -/
private theorem two_pow_pos (n : ℕ) : 0 < Nat.pow 2 n := Nat.pow_pos Nat.two_pos

/-- A power of two to a sum is a product. -/
private theorem two_pow_add (a b : ℕ) : Nat.pow 2 (a + b) = Nat.pow 2 a * Nat.pow 2 b :=
  Nat.pow_add 2 a b

/-- The number one is at least one unit. -/
theorem unitsInOne_pos : 0 < unitsInOne := by
  unfold unitsInOne
  generalize 1074 = places
  exact two_pow_pos places

/-- What a number below a power of two counts in units. -/
private theorem mul_unitsInOne_lt {n a : ℕ} (hn : n < Nat.pow 2 a) :
    n * unitsInOne < Nat.pow 2 (a + 1074) := by
  unfold unitsInOne
  generalize 1074 = places
  rw [two_pow_add]
  exact Nat.mul_lt_mul_of_pos_right hn (two_pow_pos places)

/-- Only the magnitude zero has no units. -/
theorem units_pos {rank : ℕ} (hrank : rank ≠ 0) : 0 < units rank := by
  unfold units
  split
  · omega
  · exact Nat.mul_pos (by unfold binade; omega) (two_pow_pos _)

/-- A value of the format has its own rank. -/
theorem rankOfRatio_units (rank : ℕ) : rankOfRatio (units rank) unitsInOne = rank := by
  have hone := unitsInOne_pos
  unfold rankOfRatio
  dsimp only
  generalize unitsInOne = one at hone
  rw [Nat.mul_div_cancel _ hone]
  by_cases hsmall : rank < binade
  · -- Below the first binade the rank counts the units.
    have hunits : units rank = rank := if_pos hsmall
    have hshift : Nat.log2 rank - 52 = 0 := by
      by_cases hzero : rank = 0
      · rw [hzero]
        rfl
      · have hlog : Nat.log2 rank < 52 := (Nat.log2_lt hzero).mpr hsmall
        omega
    have hfactor : one * Nat.pow 2 0 = one := Nat.mul_one one
    rw [hunits, hshift, Nat.zero_mul, Nat.zero_add, hfactor, roundHalfEven_mul_self hone]
  · obtain ⟨exponent, hexponent⟩ : ∃ exponent, rank / binade = exponent + 1 := by
      have hpos : 0 < rank / binade := Nat.div_pos (Nat.le_of_not_lt hsmall) (by decide)
      exact ⟨rank / binade - 1, by omega⟩
    have hfraction : rank % binade < binade := Nat.mod_lt _ (by decide)
    have hunits : units rank = (binade + rank % binade) * Nat.pow 2 exponent := by
      unfold units
      rw [if_neg hsmall, hexponent, Nat.add_sub_cancel]
    have hlog : Nat.log2 (units rank) = 52 + exponent := by
      rw [hunits]
      refine (Nat.log2_eq_iff ?_).mpr ⟨?_, ?_⟩
      · exact Nat.ne_of_gt (Nat.mul_pos (by unfold binade; omega) (two_pow_pos exponent))
      · rw [Nat.pow_add]
        exact Nat.mul_le_mul_right _ (by unfold binade; omega)
      · rw [Nat.add_right_comm, Nat.pow_add]
        exact Nat.mul_lt_mul_of_pos_right (by unfold binade at *; omega) (two_pow_pos exponent)
    have hshift : Nat.log2 (units rank) - 52 = exponent := by omega
    have hwhole : units rank * one =
        (binade + rank % binade) * (one * Nat.pow 2 exponent) := by
      rw [hunits, Nat.mul_assoc, Nat.mul_comm one]
    rw [hshift, hwhole, roundHalfEven_mul_self (Nat.mul_pos hone (two_pow_pos exponent))]
    have hsplit := Nat.div_add_mod rank binade
    rw [hexponent, Nat.mul_add, Nat.mul_one, Nat.mul_comm] at hsplit
    rw [← Nat.add_assoc]
    exact hsplit

/-- The rank of a quotient is bounded by the binade that the quotient lies in. -/
theorem rankOfRatio_le {num den bits k : ℕ} (hbound : num * unitsInOne / den < Nat.pow 2 bits)
    (hbits : bits ≤ k + 53) : rankOfRatio num den ≤ (k + 2) * binade := by
  unfold rankOfRatio
  dsimp only
  generalize num * unitsInOne = scaled at hbound ⊢
  have hlog : Nat.log2 (scaled / den) ≤ k + 52 := by
    by_cases hzero : scaled / den = 0
    · rw [hzero]
      exact Nat.zero_le _
    · have hlt : Nat.log2 (scaled / den) < bits := (Nat.log2_lt hzero).mpr hbound
      omega
  obtain ⟨shift, hshift⟩ : ∃ shift, Nat.log2 (scaled / den) - 52 = shift := ⟨_, rfl⟩
  rw [hshift]
  have hquotient : scaled / den / Nat.pow 2 shift < 2 * binade := by
    have hself : scaled / den < Nat.pow 2 (Nat.log2 (scaled / den) + 1) := Nat.lt_log2_self
    have hpower : Nat.pow 2 (Nat.log2 (scaled / den) + 1) ≤ Nat.pow 2 (shift + 53) :=
      Nat.pow_le_pow_right (by decide) (by omega)
    have htwo : Nat.pow 2 53 = 2 * binade := by decide
    rw [two_pow_add shift, htwo] at hpower
    exact Nat.div_lt_of_lt_mul (Nat.lt_of_lt_of_le hself hpower)
  have hrounded := roundHalfEven_le scaled (den * Nat.pow 2 shift)
  rw [← Nat.div_div_eq_div_mul] at hrounded
  have hshifted : shift * binade ≤ k * binade := Nat.mul_le_mul_right _ (by omega)
  rw [Nat.add_mul]
  generalize binade = block at *
  omega

/-- An integer of 64 bits is rounded to a finite number. -/
theorem isFinite_ofInt (i : Int64) : (ofInt i.toInt).isFinite = true := by
  have hrank : rankOfRatio i.toInt.natAbs 1 < finiteCount := by
    have hsmall : i.toInt.natAbs < Nat.pow 2 64 := by
      have hlow := i.le_toInt
      have hhigh := i.toInt_lt
      have htwo : Nat.pow 2 64 = 18446744073709551616 := by decide
      omega
    have hbound := mul_unitsInOne_lt hsmall
    rw [← Nat.div_one (_ * unitsInOne)] at hbound
    exact Nat.lt_of_le_of_lt (rankOfRatio_le (k := 1085) hbound (by decide)) (by decide)
  unfold ofInt ofRatio ofRank
  rw [dif_pos hrank]
  rfl

/-- A power of ten has one factor more than the one before it. -/
private theorem ten_pow_succ (n : ℕ) : Nat.pow 10 (n + 1) = 10 * Nat.pow 10 n :=
  Nat.pow_succ' (m := 10)

/-- A factor of ten moves from the digits of a decimal number to its exponent. -/
theorem ofDecimal_ten_mul (negative : Bool) (n : ℕ) (exponent : ℤ) :
    ofDecimal ⟨negative, 10 * n, exponent⟩ = ofDecimal ⟨negative, n, exponent + 1⟩ := by
  by_cases hn : n = 0
  · unfold ofDecimal
    rw [hn, if_pos (Nat.mul_zero 10), if_pos rfl]
  have htop : (Decimal.mk negative (10 * n) exponent).top =
      (Decimal.mk negative n (exponent + 1)).top := by
    unfold Decimal.top
    dsimp only
    rw [Decimal.length_digitsOf_ten_mul hn]
    omega
  -- The two quotients are equal, or one is the other with a factor of ten above and below.
  have hratio : ∃ k, 0 < k ∧ (Decimal.mk negative (10 * n) exponent).ratio =
      (k * (Decimal.mk negative n (exponent + 1)).ratio.1,
        k * (Decimal.mk negative n (exponent + 1)).ratio.2) := by
    unfold Decimal.ratio
    dsimp only
    rcases Int.lt_trichotomy exponent (-1) with hlow | heq | hhigh
    · refine ⟨10, by decide, ?_⟩
      have hpower : (-exponent).toNat = (-(exponent + 1)).toNat + 1 := by omega
      rw [if_neg (by omega), if_neg (by omega), hpower, ten_pow_succ]
    · refine ⟨10, by decide, ?_⟩
      rw [heq, if_neg (by decide), if_pos (by decide)]
      exact congrArg (10 * ·, 10) (Nat.mul_one n).symm
    · refine ⟨1, by decide, ?_⟩
      have hpower : (exponent + 1).toNat = exponent.toNat + 1 := by omega
      rw [if_pos (by omega), if_pos (by omega), hpower, ten_pow_succ, Nat.one_mul, Nat.one_mul,
        Nat.mul_comm 10 n, Nat.mul_assoc]
  obtain ⟨k, hk, hratio⟩ := hratio
  unfold ofDecimal
  rw [htop, hratio, if_neg (Nat.mul_ne_zero (by decide) hn), if_neg hn]
  dsimp only
  rw [ofRatio_mul_left hk]

/-- Powers of ten move from the digits of a decimal number to its exponent. -/
theorem ofDecimal_mul_pow_ten (negative : Bool) (n k : ℕ) (exponent : ℤ) :
    ofDecimal ⟨negative, n * 10 ^ k, exponent⟩ = ofDecimal ⟨negative, n, exponent + k⟩ := by
  induction k generalizing exponent with
  | zero => simp
  | succ k ih =>
    have hfactor : n * 10 ^ (k + 1) = 10 * (n * 10 ^ k) := by ring
    rw [hfactor, ofDecimal_ten_mul, ih]
    congr 2
    omega

/-- Zeros at the end of the digits count for nothing. -/
theorem ofDecimal_stripZeros (fuel : ℕ) (d : Decimal) :
    ofDecimal (Decimal.stripZeros fuel d) = ofDecimal d := by
  induction fuel generalizing d with
  | zero => rfl
  | succ fuel ih =>
    unfold Decimal.stripZeros
    split
    · next hzeros =>
      obtain ⟨negative, n, exponent⟩ := d
      have hdigits : 10 * (n / 10) = n := Nat.mul_div_cancel' (Nat.dvd_of_mod_eq_zero hzeros.2)
      rw [ih, ← ofDecimal_ten_mul]
      dsimp only
      rw [hdigits]
    · rfl

/-- The decimal without zeros at the end is the same number. -/
theorem ofDecimal_normal (d : Decimal) : ofDecimal d.normal = ofDecimal d :=
  ofDecimal_stripZeros _ d

end LayeredSettings.Binary64
