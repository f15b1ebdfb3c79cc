import LayeredSettings.Text.Basic
import Mathlib.Data.List.DropRight

/-!
# Texts without blanks at their ends

Cutting the blanks off twice cuts no more than once, a text without blanks is left as it is, and the
case of letters plays no part: no letter is a blank.
-/

namespace LayeredSettings.Text

/-- Lowering the case moves a capital letter up and leaves every other character. -/
theorem toNat_toLower (c : Char) : c.toLower.toNat = c.toNat ∨
    65 ≤ c.toNat ∧ c.toNat ≤ 90 ∧ c.toLower.toNat = c.toNat + 32 := by
  unfold Char.toLower
  split
  · next hupper =>
    have hlow : 65 ≤ c.val.toNat := UInt32.le_iff_toNat_le.mp hupper.1
    have hhigh : c.val.toNat ≤ 90 := UInt32.le_iff_toNat_le.mp hupper.2
    have hsum : (c.val + 32).toNat = c.val.toNat + 32 := by
      rw [UInt32.toNat_add]
      exact Nat.mod_eq_of_lt (Nat.lt_of_le_of_lt (Nat.add_le_add_right hhigh 32) (by decide))
    exact Or.inr ⟨hlow, hhigh, hsum⟩
  · exact Or.inl rfl

/-- The case of a letter does not make it a blank. -/
theorem isBlank_toLower (c : Char) : isBlank c.toLower = isBlank c := by
  rcases toNat_toLower c with hsame | ⟨hlow, hhigh, hmoved⟩
  · unfold isBlank
    rw [hsame]
  · grind [isBlank]

/-- The code points of the digits. -/
theorem toNat_of_isDigit {c : Char} (hc : c.isDigit = true) : 48 ≤ c.toNat ∧ c.toNat ≤ 57 := by
  obtain ⟨hlow, hhigh⟩ : 48 ≤ c.val ∧ c.val ≤ 57 := by simpa [Char.isDigit] using hc
  exact ⟨UInt32.le_iff_toNat_le.mp hlow, UInt32.le_iff_toNat_le.mp hhigh⟩

/-- A digit is no blank. -/
theorem isBlank_of_isDigit {c : Char} (hc : c.isDigit = true) : isBlank c = false := by
  have hcode := toNat_of_isDigit hc
  grind [isBlank]

/-- A text is free of blanks if a test of its characters says so. -/
theorem isBlank_of_all {cs : List Char} (hcs : (cs.all fun c => !isBlank c) = true) :
    ∀ c ∈ cs, isBlank c = false := by
  intro c hc
  exact Bool.not_eq_true' _ |>.mp (List.all_eq_true.mp hcs c hc)

/-- Blanks are cut off at the start first, then at the end. -/
theorem trimBlanks_eq (cs : List Char) :
    trimBlanks cs = (cs.dropWhile isBlank).rdropWhile isBlank := rfl

/-- Nothing is cut off where there are no blanks. -/
theorem trimBlanks_of_forall {cs : List Char} (hcs : ∀ c ∈ cs, isBlank c = false) :
    trimBlanks cs = cs := by
  have hfront : cs.dropWhile isBlank = cs := by
    rw [List.dropWhile_eq_self_iff]
    intro hpos
    simp [hcs _ (List.getElem_mem hpos)]
  have hback : cs.rdropWhile isBlank = cs := by
    rw [List.rdropWhile_eq_self_iff]
    intro hne
    simp [hcs _ (List.getLast_mem hne)]
  unfold trimBlanks
  rw [hfront]
  exact hback

/-- What is cut off once is not cut off again. -/
theorem trimBlanks_trimBlanks (cs : List Char) : trimBlanks (trimBlanks cs) = trimBlanks cs := by
  have hfront : (trimBlanks cs).dropWhile isBlank = trimBlanks cs := by
    rw [List.dropWhile_eq_self_iff]
    intro hpos
    -- The first character is the first one of the text that is no blank.
    have hstarts : trimBlanks cs <+: cs.dropWhile isBlank := List.rdropWhile_prefix _ _
    have hne : cs.dropWhile isBlank ≠ [] := fun hnil => by
      rw [trimBlanks_eq, hnil] at hpos
      exact absurd hpos (by simp)
    have hhead : (trimBlanks cs)[0] = (cs.dropWhile isBlank).head hne := by
      rw [hstarts.getElem hpos, List.head_eq_getElem]
    rw [hhead]
    simp [List.head_dropWhile_not isBlank hne]
  rw [trimBlanks_eq (trimBlanks cs), hfront, trimBlanks_eq, List.rdropWhile_idempotent]

/-- Nothing is left exactly of a text of blanks. -/
theorem trimBlanks_eq_nil_iff {cs : List Char} :
    trimBlanks cs = [] ↔ ∀ c ∈ cs, isBlank c = true := by
  rw [trimBlanks_eq, List.rdropWhile_eq_nil_iff]
  constructor
  · intro hrest
    by_contra hsome
    have hne : cs.dropWhile isBlank ≠ [] := mt List.dropWhile_eq_nil_iff.mp hsome
    have hhead := hrest _ (List.head_mem hne)
    simp [List.head_dropWhile_not isBlank hne] at hhead
  · intro hall c hc
    exact hall c ((List.dropWhile_sublist isBlank).subset hc)

/-- Nothing is cut off exactly if no blank is at an end. -/
theorem trimBlanks_eq_self_iff {cs : List Char} :
    trimBlanks cs = cs ↔
      ∀ c, cs.head? = some c ∨ cs.getLast? = some c → isBlank c = false := by
  rw [trimBlanks_eq]
  constructor
  · intro hsame
    have hprefix : (cs.dropWhile isBlank).rdropWhile isBlank <+: cs.dropWhile isBlank :=
      List.rdropWhile_prefix _ _
    have hsuffix : cs.dropWhile isBlank <:+ cs := List.dropWhile_suffix isBlank
    -- What is left lies within what is left after the first cut, so neither cut takes anything.
    have hlength : cs.length ≤ (cs.dropWhile isBlank).length :=
      (congrArg List.length hsame).symm.trans_le hprefix.length_le
    have hfront : cs.dropWhile isBlank = cs := hsuffix.eq_of_length_le hlength
    rw [hfront] at hsame
    rintro c (hhead | hlast)
    · cases cs with
      | nil => cases hhead
      | cons first rest =>
        have hfirst : first = c := Option.some.inj hhead
        have hstays : isBlank first ≠ true := List.dropWhile_eq_self_iff.mp hfront (by simp)
        simpa [hfirst] using hstays
    · obtain ⟨front, rfl⟩ := List.getLast?_eq_some_iff.mp hlast
      simpa using List.rdropWhile_eq_self_iff.mp hsame (by simp)
  · intro hends
    have hfront : cs.dropWhile isBlank = cs := by
      cases cs with
      | nil => rfl
      | cons first rest => simp [hends first (Or.inl rfl)]
    rw [hfront, List.rdropWhile_eq_self_iff]
    intro hne
    simp [hends _ (Or.inr (List.getLast?_eq_getLast_of_ne_nil hne))]

/-- Cutting blanks off and lowering the case can change places. -/
theorem trimBlanks_map_toLower (cs : List Char) :
    trimBlanks (cs.map Char.toLower) = (trimBlanks cs).map Char.toLower := by
  have hblank : isBlank ∘ Char.toLower = isBlank := funext isBlank_toLower
  unfold trimBlanks
  rw [List.dropWhile_map, hblank, ← List.map_reverse, List.dropWhile_map, hblank, List.map_reverse]

end LayeredSettings.Text
