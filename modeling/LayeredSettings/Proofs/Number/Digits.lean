import LayeredSettings.Number.Decimal
import Mathlib.Data.List.TakeWhile
import Mathlib.Tactic.Ring

/-!
# Digits read back

A natural number is the value of its own digits, zeros behind the digits are powers of ten, and a
run of digits is read up to the first character that is none. The length of the digits says how
large the number is.
-/

namespace LayeredSettings.Decimal

variable {digits rest : List Char}

/-- The value of two runs of digits, one after the other. -/
theorem ofDigits_append (front back : List Char) :
    ofDigits (front ++ back) = ofDigits front * 10 ^ back.length + ofDigits back := by
  have happend := Nat.ofDigitChars_append (b := 10) (l := front) (m := back) 0
  rw [Nat.ofDigitChars_eq_ofDigitChars_zero (l := back), Nat.mul_comm] at happend
  simp only [Nat.ofDigitChars_eq_foldl] at happend
  exact happend

/-- A number is the value of its digits. -/
theorem ofDigits_digitsOf (n : ℕ) : ofDigits (digitsOf n) = n := by
  have hvalue := Nat.ofDigitChars_ten_toDigits (n := n)
  rwa [Nat.ofDigitChars_eq_foldl] at hvalue

/-- Zeros alone are worth nothing. -/
theorem ofDigits_replicate_zero (n : ℕ) : ofDigits (List.replicate n '0') = 0 := by
  have hvalue : Nat.ofDigitChars 10 (List.replicate n '0') 0 = 10 ^ n * 0 :=
    Nat.ofDigitChars_replicate_zero
  rwa [Nat.ofDigitChars_eq_foldl, Nat.mul_zero] at hvalue

/-- The digits of a number are digits. -/
theorem isDigit_of_mem_digitsOf {n : ℕ} : ∀ c ∈ digitsOf n, c.isDigit = true := by
  intro c hc
  exact Nat.isDigit_of_mem_toDigits (by decide) (by decide) hc

/-- There is at least one digit. -/
theorem digitsOf_ne_nil (n : ℕ) : digitsOf n ≠ [] := Nat.toDigits_ne_nil

/-- The number of digits bounds a number, and the other way round. -/
theorem length_digitsOf_le_iff {n k : ℕ} (hk : 0 < k) :
    (digitsOf n).length ≤ k ↔ n < Nat.pow 10 k :=
  Nat.length_toDigits_le_iff (by decide) hk

/-- Ten times a number has one more digit. -/
theorem length_digitsOf_ten_mul {n : ℕ} (hn : n ≠ 0) :
    (digitsOf (10 * n)).length = (digitsOf n).length + 1 := by
  have happend := Nat.toDigits_append_toDigits (b := 10) (n := n) (d := 0) (by decide)
    (Nat.pos_of_ne_zero hn) (by decide)
  rw [Nat.add_zero] at happend
  unfold digitsOf
  rw [← happend, List.length_append, Nat.toDigits_zero, List.length_singleton]

/-- Digits are split off in front of what is no digit. -/
theorem splitDigits_append (hdigits : ∀ c ∈ digits, c.isDigit = true)
    (hrest : ∀ c ∈ rest.head?, c.isDigit = false) :
    splitDigits (digits ++ rest) = (digits, rest) := by
  have hstop : rest.takeWhile Char.isDigit = [] ∧ rest.dropWhile Char.isDigit = rest := by
    cases rest with
    | nil => exact ⟨rfl, rfl⟩
    | cons c rest =>
      have hc : c.isDigit = false := hrest c rfl
      exact ⟨List.takeWhile_cons_of_neg (by simp [hc]), List.dropWhile_cons_of_neg (by simp [hc])⟩
  unfold splitDigits
  rw [List.takeWhile_append_of_pos hdigits, List.dropWhile_append_of_pos hdigits, hstop.1, hstop.2,
    List.append_nil]

/-- Nothing else is left of digits alone. -/
theorem splitDigits_of_forall (hdigits : ∀ c ∈ digits, c.isDigit = true) :
    splitDigits digits = (digits, []) := by
  have hnil : ∀ c ∈ ([] : List Char).head?, c.isDigit = false := by simp
  have hsplit := splitDigits_append hdigits hnil
  rwa [List.append_nil] at hsplit

/-- A digit in front is no sign. -/
theorem splitSign_of_isDigit {c : Char} (hc : c.isDigit = true) (cs : List Char) :
    splitSign (c :: cs) = (false, c :: cs) := by
  unfold splitSign
  split
  · next heq =>
    cases heq
    exact absurd hc (by decide)
  · next heq =>
    cases heq
    exact absurd hc (by decide)
  · rfl

end LayeredSettings.Decimal
