import Mathlib.Data.Finset.Card
import Mathlib.Data.List.Forall2
import Mathlib.Logic.Relation

/-!
# Lists

What is used of lists in general: what a list of bindings gives for a name, the results of the
elements of a list, lists that are related element by element, and steps that lead from element to
element. Nothing here mentions a setting.
-/

namespace LayeredSettings

variable {α β γ : Type}

/-! ## Lists of bindings -/

section Bindings

variable {κ : Type} [BEq κ] [LawfulBEq κ] [DecidableEq κ]

/-- Looking up a name looks at the first binding first. -/
theorem lookup_cons_ite (key k : κ) (v : α) (l : List (κ × α)) :
    ((k, v) :: l).lookup key = if key = k then some v else l.lookup key := by
  rw [List.lookup_cons]
  by_cases h : key = k
  · rw [if_pos h, h, beq_self_eq_true]
  · rw [if_neg h, beq_false_of_ne h]

omit [DecidableEq κ] in
/-- A list of bindings without a name gives nothing for it. -/
theorem lookup_eq_none_of_forall {l : List (κ × α)} {key : κ}
    (habsent : ∀ value, (key, value) ∉ l) : l.lookup key = none := by
  refine List.lookup_eq_none_iff.mpr fun entry hentry => ?_
  have hne : key ≠ entry.1 := by
    rintro rfl
    exact habsent entry.2 hentry
  simpa using hne

/-- Without the bindings of one name a list still gives the same for every other. -/
theorem lookup_filter_ne (l : List (κ × α)) (removed key : κ) :
    (l.filter (·.1 ≠ removed)).lookup key = if key = removed then none else l.lookup key := by
  induction l with
  | nil => simp
  | cons head rest ih =>
    obtain ⟨k, v⟩ := head
    rw [lookup_cons_ite]
    by_cases hk : k = removed
    · rw [List.filter_cons_of_neg (by simpa using hk), ih]
      by_cases hkey : key = removed
      · rw [if_pos hkey, if_pos hkey]
      · rw [if_neg hkey, if_neg hkey, if_neg fun h => hkey (h.trans hk)]
    · rw [List.filter_cons_of_pos (by simpa using hk), lookup_cons_ite, ih]
      by_cases hfound : key = k
      · rw [if_pos hfound, if_neg (hfound ▸ hk), if_pos hfound]
      · rw [if_neg hfound, if_neg hfound]

end Bindings

/-! ## Results of the elements -/

/-- The first result in a list depends on the results of its elements. -/
theorem findSome?_congr {l : List α} {f g : α → Option β} (hsame : ∀ a ∈ l, f a = g a) :
    l.findSome? f = l.findSome? g := by
  rw [← List.head?_filterMap, ← List.head?_filterMap, List.filterMap_congr hsame]

/-- The results of a list are that of the first element, if it has one, and those of the rest. -/
theorem filterMap_cons_eq_append (f : α → Option β) (a : α) (l : List α) :
    (a :: l).filterMap f = (f a).toList ++ l.filterMap f := by
  simp only [List.filterMap_eq_flatMap_toList, List.flatMap_cons]

/-! ## Element by element -/

/-- A list without repeats has at most one member exactly if its members are all the same. -/
theorem length_le_one_iff_of_nodup [DecidableEq α] {l : List α} (hnodup : l.Nodup) :
    l.length ≤ 1 ↔ ∀ a ∈ l, ∀ b ∈ l, a = b := by
  rw [← List.toFinset_card_of_nodup hnodup, Finset.card_le_one]
  simp only [List.mem_toFinset]

section Related

variable {f : α → γ} {g : β → γ} {R : α → β → Prop}

/-- Lists that are mapped to one list are related element by element by what holds of elements that
are mapped to one element. -/
theorem forall₂_of_map_eq :
    ∀ {l : List α} {m : List β}, l.map f = m.map g →
      (∀ a ∈ l, ∀ b ∈ m, f a = g b → R a b) → List.Forall₂ R l m
  | [], [], _, _ => .nil
  | a :: l, b :: m, hmap, hR => by
    obtain ⟨hhead, htail⟩ := List.cons.inj hmap
    exact .cons (hR a List.mem_cons_self b List.mem_cons_self hhead)
      (forall₂_of_map_eq htail fun a ha b hb =>
        hR a (List.mem_cons_of_mem _ ha) b (List.mem_cons_of_mem _ hb))

/-- Lists whose elements are related one by one are mapped to one list if related elements are
mapped to one element. -/
theorem map_eq_of_forall₂ {l : List α} {m : List β} (hlm : List.Forall₂ R l m)
    (hR : ∀ a b, R a b → f a = g b) : l.map f = m.map g := by
  rw [← List.forall₂_eq_eq_eq, List.forall₂_map_left_iff, List.forall₂_map_right_iff]
  exact hlm.imp hR

end Related

/-! ## Steps from element to element -/

section Steps

variable {R : α → α → Prop} {l : List α} {a b : α}

open Classical in
/-- Where a step does not lead into a circle, fewer things can be reached after it than before. -/
theorem length_reached_lt (hb : b ∈ l) (hstep : R a b) (hcircle : ¬ Relation.TransGen R b b) :
    (l.filter fun e => Relation.TransGen R b e).length <
      (l.filter fun e => Relation.TransGen R a e).length := by
  have hfewer : (l.filter fun e => Relation.TransGen R a e).filter
      (fun e => Relation.TransGen R b e) = l.filter fun e => Relation.TransGen R b e := by
    rw [List.filter_filter]
    refine List.filter_congr fun e _ => ?_
    simpa using fun hreach : Relation.TransGen R b e => hreach.head hstep
  rw [← hfewer]
  refine List.length_filter_lt_length_iff_exists.mpr ⟨b, ?_, by simpa using hcircle⟩
  exact List.mem_filter.mpr ⟨hb, by simpa using Relation.TransGen.single hstep⟩

open Classical in
/-- If from everything in a list a step leads to something in the list, then steps lead into a
circle. -/
theorem exists_circle (hnext : ∀ a ∈ l, ∃ b ∈ l, R a b) (ha : a ∈ l) :
    ∃ b, Relation.ReflTransGen R a b ∧ Relation.TransGen R b b := by
  -- Either the next step comes back to its end, or fewer things can be reached after it.
  induction hcount : (l.filter fun e => Relation.TransGen R a e).length using
    Nat.strong_induction_on generalizing a with
  | _ count ih =>
    obtain ⟨next, hmem, hstep⟩ := hnext a ha
    by_cases hcircle : Relation.TransGen R next next
    · exact ⟨next, .single hstep, hcircle⟩
    · obtain ⟨b, hreach, hback⟩ :=
        ih _ (hcount ▸ length_reached_lt hmem hstep hcircle) hmem rfl
      exact ⟨b, .head hstep hreach, hback⟩

end Steps

end LayeredSettings
