import LayeredSettings.Profile.Name
import LayeredSettings.Proofs.Text.Blank

/-!
# Which texts name a profile

A text is checked by cutting its blanks off. In terms of its characters, it names a profile if one
of them is no blank, neither the first nor the last one is a blank, and none is a control; else it
is refused for the first of these that fails.
-/

namespace LayeredSettings

variable {text : String} {fault : NameFault}

/-- A text that can name a profile. -/
structure NamesProfile (text : String) : Prop where
  /-- There is something other than blanks. -/
  nonblank : ∃ c ∈ text.toList, Text.isBlank c = false
  /-- No blank stands at the start or at the end. -/
  ends : ∀ c, text.toList.head? = some c ∨ text.toList.getLast? = some c → Text.isBlank c = false
  /-- No character is a control. -/
  visible : ∀ c ∈ text.toList, Text.isControl c = false

/-- The first thing that keeps a text from naming a profile. -/
inductive NameFault.Spoils (text : String) : NameFault → Prop
  /-- There is nothing but blanks. -/
  | empty (hblank : ∀ c ∈ text.toList, Text.isBlank c = true) : Spoils text .empty
  /-- A blank stands at the start or at the end. -/
  | padded {c : Char} (hnonblank : ∃ c ∈ text.toList, Text.isBlank c = false)
      (hend : text.toList.head? = some c ∨ text.toList.getLast? = some c)
      (hblank : Text.isBlank c = true) : Spoils text (.padded text)
  /-- A character is a control. -/
  | control {c : Char} (hnonblank : ∃ c ∈ text.toList, Text.isBlank c = false)
      (hends : ∀ c, text.toList.head? = some c ∨ text.toList.getLast? = some c →
        Text.isBlank c = false)
      (hmem : c ∈ text.toList) (hcontrol : Text.isControl c = true) : Spoils text (.control text)

/-- Nothing is left of a text exactly if all of it is blank. -/
private theorem trim_eq_empty_iff :
    Text.trim text = "" ↔ ∀ c ∈ text.toList, Text.isBlank c = true := by
  rw [← Text.trimBlanks_eq_nil_iff]
  exact String.ofList_eq_empty_iff

/-- All of a text is left exactly if no blank is at an end. -/
private theorem trim_eq_self_iff :
    Text.trim text = text ↔
      ∀ c, text.toList.head? = some c ∨ text.toList.getLast? = some c → Text.isBlank c = false := by
  rw [← Text.trimBlanks_eq_self_iff, ← String.toList_inj, Text.trim, String.toList_ofList]

/-- A text is a name exactly if nothing is wrong with it. -/
theorem nameFault?_eq_none_iff : nameFault? text = none ↔ NamesProfile text := by
  unfold nameFault?
  constructor
  · intro hnone
    split at hnone
    · cases hnone
    next hsome =>
    split at hnone
    · cases hnone
    next hends =>
    split at hnone
    · cases hnone
    next hvisible =>
    refine ⟨by simpa [trim_eq_empty_iff] using hsome, ?_, by simpa using hvisible⟩
    exact trim_eq_self_iff.mp (not_not.mp hends)
  · rintro ⟨hsome, hends, hvisible⟩
    rw [if_neg (by simpa [trim_eq_empty_iff] using hsome),
      if_neg (not_not.mpr (trim_eq_self_iff.mpr hends)), if_neg (by simpa using hvisible)]

/-- A text is refused as a name for the first thing that keeps it from being one. -/
theorem nameFault?_eq_some_iff : nameFault? text = some fault ↔ fault.Spoils text := by
  unfold nameFault?
  constructor
  · intro hfault
    split at hfault
    · next hblank =>
      cases hfault
      exact .empty (trim_eq_empty_iff.mp hblank)
    next hsome =>
    have hnonblank : ∃ c ∈ text.toList, Text.isBlank c = false := by
      simpa [trim_eq_empty_iff] using hsome
    split at hfault
    · next hpadded =>
      cases hfault
      rw [Ne, trim_eq_self_iff] at hpadded
      push Not at hpadded
      obtain ⟨c, hend, hblank⟩ := hpadded
      exact .padded hnonblank hend (by simpa using hblank)
    next hends =>
    split at hfault
    · next hcontrol =>
      cases hfault
      obtain ⟨c, hmem, hc⟩ := List.any_eq_true.mp hcontrol
      exact .control hnonblank (trim_eq_self_iff.mp (not_not.mp hends)) hmem hc
    · cases hfault
  · intro hspoils
    cases hspoils with
    | empty hblank => rw [if_pos (trim_eq_empty_iff.mpr hblank)]
    | padded hnonblank hend hblank =>
      have hpadded : Text.trim text ≠ text := fun hsame => by
        simp [trim_eq_self_iff.mp hsame _ hend] at hblank
      rw [if_neg (by simpa [trim_eq_empty_iff] using hnonblank), if_pos hpadded]
    | control hnonblank hends hmem hcontrol =>
      rw [if_neg (by simpa [trim_eq_empty_iff] using hnonblank),
        if_neg (not_not.mpr (trim_eq_self_iff.mpr hends)),
        if_pos (List.any_eq_true.mpr ⟨_, hmem, hcontrol⟩)]

namespace ProfileName

/-- A text is not taken as a name exactly for the first thing that keeps it from being one. -/
theorem ofText_eq_error_iff : ofText text = .error fault ↔ fault.Spoils text := by
  rw [← nameFault?_eq_some_iff]
  unfold ofText
  split
  · next hnone => simp [hnone]
  · next other hfault => simp [hfault]

/-- A text is taken as a name exactly if it can name a profile. -/
theorem exists_ofText_iff : (∃ name, ofText text = .ok name) ↔ NamesProfile text := by
  rw [← nameFault?_eq_none_iff]
  unfold ofText
  split
  · next hnone => simp [hnone]
  · next other hfault => simp [hfault]

end ProfileName

end LayeredSettings
