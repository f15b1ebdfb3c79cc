import LayeredSettings.Proofs.Number.Rounding

/-!
# The shortest decimal is a name of the number

Every candidate is tried by reading it, so a decimal that is found reads back; the exact decimal,
which stands behind the candidates, reads back because it is the number itself, cut down by the
common powers of five. The sign plays no part in it.
-/

namespace LayeredSettings.Binary64

variable {magnitude : Fin finiteCount}

/-- The magnitude that a decimal is rounded to does not depend on its sign. -/
theorem ofDecimal_sign {d : Decimal} {negative : Bool} (sign : Bool)
    (hread : ofDecimal d = finite negative magnitude) :
    ofDecimal ⟨sign, d.digits, d.exponent⟩ = finite sign magnitude := by
  have htop : (Decimal.mk sign d.digits d.exponent).top = d.top := rfl
  have hratio : (Decimal.mk sign d.digits d.exponent).ratio = d.ratio := rfl
  unfold ofDecimal at hread ⊢
  rw [htop, hratio]
  dsimp only
  split at hread
  · next hn =>
    rw [if_pos hn]
    cases hread
    rfl
  · next hn =>
    rw [if_neg hn]
    split at hread
    · cases hread
    · next hhigh =>
      rw [if_neg hhigh]
      split at hread
      · next hlow =>
        rw [if_pos hlow]
        cases hread
        rfl
      · next hlow =>
        rw [if_neg hlow]
        unfold ofRatio ofRank at hread ⊢
        split at hread
        · next hrank =>
          rw [dif_pos hrank]
          cases hread
          rfl
        · cases hread

/-- The value of a magnitude is rounded to the magnitude. -/
theorem ofRatio_units (negative : Bool) (magnitude : Fin finiteCount) :
    ofRatio negative (units magnitude) unitsInOne = finite negative magnitude := by
  unfold ofRatio ofRank
  rw [rankOfRatio_units, dif_pos magnitude.isLt]

/-- The units of a number in the first `n + 2` binades. -/
private theorem units_lt {rank n : ℕ} (hrank : rank < (n + 2) * binade) :
    units rank < Nat.pow 2 53 * Nat.pow 2 n := by
  have htwo : Nat.pow 2 53 = 2 * binade := by decide
  have hblock : 0 < binade := by decide
  have hfactor : 0 < Nat.pow 2 n := Nat.pow_pos Nat.two_pos
  rw [htwo]
  unfold units
  generalize binade = block at hrank hblock ⊢
  split
  · calc rank < 2 * block := by omega
      _ ≤ 2 * block * Nat.pow 2 n := Nat.le_mul_of_pos_right _ hfactor
  · have hshift : rank / block - 1 ≤ n := by
      have hquotient : rank / block < n + 2 := Nat.div_lt_of_lt_mul (Nat.mul_comm _ _ ▸ hrank)
      omega
    have hfraction : rank % block < block := Nat.mod_lt _ hblock
    have hpower : Nat.pow 2 (rank / block - 1) ≤ Nat.pow 2 n :=
      Nat.pow_le_pow_right (by decide) hshift
    calc (block + rank % block) * Nat.pow 2 (rank / block - 1)
        ≤ (block + rank % block) * Nat.pow 2 n := Nat.mul_le_mul_left _ hpower
      _ < 2 * block * Nat.pow 2 n := Nat.mul_lt_mul_of_pos_right (by omega) hfactor

/-- The number of digits of a multiple of the units, from bounds of the factor. -/
private theorem length_digits_units_mul (n : ℕ) {rank factor low high : ℕ} (hrank : rank ≠ 0)
    (hlt : rank < (n + 2) * binade) (hlow : Nat.pow 10 low ≤ factor)
    (hhigh : Nat.pow 2 53 * Nat.pow 2 n * factor ≤ Nat.pow 10 high)
    (hplaces : 0 < low ∧ 0 < high) :
    low < (Decimal.digitsOf (units rank * factor)).length ∧
      (Decimal.digitsOf (units rank * factor)).length ≤ high := by
  have hfactor : 0 < factor := Nat.lt_of_lt_of_le (Nat.pow_pos (by decide)) hlow
  rw [← Nat.not_le, Decimal.length_digitsOf_le_iff hplaces.1,
    Decimal.length_digitsOf_le_iff hplaces.2, Nat.not_lt]
  constructor
  · exact Nat.le_trans hlow (Nat.le_mul_of_pos_left _ (units_pos hrank))
  · exact Nat.lt_of_lt_of_le (Nat.mul_lt_mul_of_pos_right (units_lt hlt) hfactor) hhigh

/-- An exact decimal has `5 ^ 1074` for each unit in its digits. -/
private theorem digits_exact (magnitude : Fin finiteCount) :
    (exact magnitude).digits = units magnitude * Nat.pow 5 1074 := rfl

/-- An exact decimal lies within the bounds beyond which everything is infinite or zero. -/
private theorem top_exact {magnitude : Fin finiteCount} (hrank : magnitude.val ≠ 0) :
    ¬ 310 < (exact magnitude).top ∧ ¬ (exact magnitude).top < -330 := by
  have hlength : 743 < (Decimal.digitsOf (exact magnitude).digits).length ∧
      (Decimal.digitsOf (exact magnitude).digits).length ≤ 1384 := by
    rw [digits_exact]
    exact length_digits_units_mul 2045 hrank magnitude.isLt (by decide +kernel)
      (by decide +kernel) (by decide)
  have htop : (exact magnitude).top = (Decimal.digitsOf (exact magnitude).digits).length - 1074 :=
    rfl
  omega

/-- A power of ten is a power of five and a power of two. -/
private theorem ten_pow_eq (n : ℕ) : Nat.pow 10 n = Nat.pow 5 n * Nat.pow 2 n := Nat.mul_pow 5 2 n

/-- The quotient of an exact decimal is the value of the magnitude with a factor above and below. -/
private theorem ratio_exact (magnitude : Fin finiteCount) : (exact magnitude).ratio =
    (Nat.pow 5 1074 * units magnitude, Nat.pow 5 1074 * unitsInOne) := by
  have hpower : (- -1074 : ℤ).toNat = 1074 := rfl
  unfold Decimal.ratio exact
  dsimp only
  rw [if_neg (by decide), hpower, ten_pow_eq, Nat.mul_comm (units magnitude)]

/-- The exact decimal reads back. -/
theorem ofDecimal_exact (magnitude : Fin finiteCount) :
    ofDecimal (exact magnitude) = finite false magnitude := by
  by_cases hrank : magnitude.val = 0
  · have hmagnitude : magnitude = zeroMagnitude := Fin.ext hrank
    have hdigits : (exact magnitude).digits = 0 := by
      rw [digits_exact, hrank]
      generalize Nat.pow 5 1074 = factor
      exact Nat.zero_mul factor
    unfold ofDecimal
    rw [if_pos hdigits, hmagnitude]
    rfl
  · have hfive : 0 < Nat.pow 5 1074 := by
      generalize 1074 = n
      exact Nat.pow_pos (by decide)
    have hdigits : (exact magnitude).digits ≠ 0 := by
      have hunits := units_pos hrank
      rw [digits_exact]
      generalize Nat.pow 5 1074 = factor at hfive ⊢
      exact Nat.mul_ne_zero (Nat.ne_of_gt hunits) (Nat.ne_of_gt hfive)
    obtain ⟨hhigh, hlow⟩ := top_exact hrank
    unfold ofDecimal
    rw [if_neg hdigits, if_neg hhigh, if_neg hlow, ratio_exact]
    dsimp only
    rw [ofRatio_mul_left hfive, ofRatio_units]
    rfl

/-- The first of three decimals that passes a test passes the test. -/
private theorem passes_of_first (test : Decimal → Bool) {first second third d : Decimal}
    (hfound : (if test first then some first else if test second then some second
      else if test third then some third else none) = some d) : test d = true := by
  split at hfound
  · next hfirst => exact Option.some.inj hfound ▸ hfirst
  · split at hfound
    · next hsecond => exact Option.some.inj hfound ▸ hsecond
    · split at hfound
      · next hthird => exact Option.some.inj hfound ▸ hthird
      · cases hfound

/-- A candidate is accepted only if it reads back. -/
theorem ofDecimal_of_candidate? {tie : Tie} {leading : ℤ} {count : ℕ} {d : Decimal}
    (hfound : candidate? tie magnitude leading count = some d) :
    ofDecimal d = finite false magnitude :=
  of_decide_eq_true (passes_of_first (readsBack magnitude) hfound)

/-- The shortest decimal reads back. -/
theorem ofDecimal_shortest (tie : Tie) (magnitude : Fin finiteCount) :
    ofDecimal (shortest tie magnitude) = finite false magnitude := by
  unfold shortest
  dsimp only
  rw [ofDecimal_normal]
  cases hfound : (List.range 17).findSome? fun n =>
      candidate? tie magnitude (leadingPower (units magnitude) unitsInOne) (n + 1) with
  | none => exact ofDecimal_exact magnitude
  | some d =>
    obtain ⟨n, -, hn⟩ := List.exists_of_findSome?_eq_some hfound
    exact ofDecimal_of_candidate? hn

end LayeredSettings.Binary64
