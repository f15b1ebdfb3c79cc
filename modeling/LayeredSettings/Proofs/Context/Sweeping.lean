import LayeredSettings.Proofs.Context.Numbering
import LayeredSettings.Proofs.Context.ThreadStack

/-!
# Dropping the guards of a list of steps

The guards that a list of steps holds at its end are all of one owner and younger than the list. To
drop them, in whatever order, takes their frames off the stack and no frame that is older than the
list, of another owner, or a scope.
-/

namespace LayeredSettings.ContextStack

/-- A stack after frames of an owner, all numbered `n` or more, were taken off another. -/
structure Swept (owner : Owner) (n : ℕ) (s t : ContextStack) : Prop where
  /-- What is left keeps its order. -/
  sublist : t.frames.Sublist s.frames
  /-- No number is used up. -/
  next_eq : t.next = s.next
  /-- The scopes are untouched. -/
  scopes_eq : t.scopes = s.scopes
  /-- The frames of other owners are untouched. -/
  others : ∀ other, other ≠ owner → t.framesOf other = s.framesOf other
  /-- The owner's older frames are untouched. -/
  older : (t.framesOf owner).filter (·.sequence < n) = (s.framesOf owner).filter (·.sequence < n)

variable {owner : Owner} {n : ℕ} {s t u : ContextStack}

/-- Nothing need be taken off. -/
theorem Swept.refl (owner : Owner) (n : ℕ) (s : ContextStack) : Swept owner n s s :=
  ⟨List.Sublist.refl _, rfl, rfl, fun _ _ => rfl, rfl⟩

/-- Frames may be taken off in two turns. -/
theorem Swept.trans (h : Swept owner n s t) (h' : Swept owner n t u) : Swept owner n s u where
  sublist := h'.sublist.trans h.sublist
  next_eq := h'.next_eq.trans h.next_eq
  scopes_eq := h'.scopes_eq.trans h.scopes_eq
  others other hne := (h'.others other hne).trans (h.others other hne)
  older := h'.older.trans h.older

/-- The frames that are left are in the order of their numbers. -/
theorem Swept.ordered (h : Swept owner n s t) (hs : s.Ordered) : t.Ordered :=
  hs.of_sublist h.sublist (h.scopes_eq ▸ List.Sublist.refl _) h.next_eq

/-- The scopes of every owner are untouched. -/
theorem Swept.scopesOf_eq (h : Swept owner n s t) (other : Owner) :
    t.scopesOf other = s.scopesOf other := by
  rw [scopesOf, h.scopes_eq, scopesOf]

/-- A frame of any owner that is left was there before. -/
theorem Swept.mem_framesOf (h : Swept owner n s t) {other : Owner} {f : Frame}
    (hf : f ∈ t.framesOf other) : f ∈ s.framesOf other :=
  List.mem_filter.mpr ⟨h.sublist.subset (List.mem_of_mem_filter hf), (List.mem_filter.mp hf).2⟩

/-- To leave a frame numbered `n` or more takes only such frames off. -/
theorem Ordered.swept_leave (h : s.Ordered) {sequence : ℕ} (hn : n ≤ sequence) :
    Swept owner n s (s.leave sequence owner) where
  sublist := by
    rw [h.leave_frames]
    split
    · exact List.filter_sublist
    · exact List.Sublist.refl _
  next_eq := leave_next s sequence owner
  scopes_eq := leave_scopes s sequence owner
  others other hne := h.framesOf_leave_of_ne sequence hne
  older := by
    rw [h.framesOf_leave]
    split
    · rw [List.filter_filter]
      refine List.filter_congr fun f _ => ?_
      by_cases hf : f.sequence < n
      · simp [hf, lt_of_lt_of_le hf hn]
      · simp [hf]
    · rfl

/-- A frame that was left is gone. -/
theorem Ordered.not_mem_leave (h : s.Ordered) {sequence : ℕ} {f : Frame}
    (hf : f ∈ (s.leave sequence owner).framesOf owner) : f.sequence ≠ sequence := by
  rw [h.framesOf_leave] at hf
  split at hf
  · have hlt : f.sequence < sequence := by simpa using (List.mem_filter.mp hf).2
    exact hlt.ne
  · next hgone => exact fun heq => hgone ⟨f, List.mem_of_mem_filter hf, heq⟩

/-- Guards that are dropped one after another take their frames off, and only frames numbered `n` or
more if the guards are. -/
theorem Ordered.swept_foldl_leave (h : s.Ordered) {guards : List Guard}
    (howner : ∀ g ∈ guards, g.owner = owner) (hyoung : ∀ g ∈ guards, n ≤ g.sequence) :
    Swept owner n s (guards.foldl (fun s g => s.leave g.sequence g.owner) s) ∧
      ∀ f ∈ (guards.foldl (fun s g => s.leave g.sequence g.owner) s).framesOf owner,
        ∀ g ∈ guards, f.sequence ≠ g.sequence := by
  induction guards generalizing s with
  | nil => exact ⟨.refl owner n s, by simp⟩
  | cons guard rest ih =>
    have hguard := howner guard List.mem_cons_self
    have hfirst : Swept owner n s (s.leave guard.sequence guard.owner) :=
      hguard ▸ h.swept_leave (hyoung guard List.mem_cons_self)
    obtain ⟨hrest, hgone⟩ := ih (hfirst.ordered h)
      (fun g hg => howner g (List.mem_cons_of_mem _ hg))
      (fun g hg => hyoung g (List.mem_cons_of_mem _ hg))
    refine ⟨hfirst.trans hrest, fun f hf g hg => ?_⟩
    rcases List.mem_cons.mp hg with rfl | hg
    · have hleft := hrest.mem_framesOf hf
      rw [hguard] at hleft
      exact h.not_mem_leave hleft
    · exact hgone f hf g hg

/-- The guards of a list, dropped newest first. -/
theorem Ordered.swept_leaveAll (h : s.Ordered) {guards : List Guard}
    (howner : ∀ g ∈ guards, g.owner = owner) (hyoung : ∀ g ∈ guards, n ≤ g.sequence) :
    Swept owner n s (s.leaveAll guards) ∧
      ∀ f ∈ (s.leaveAll guards).framesOf owner, ∀ g ∈ guards, f.sequence ≠ g.sequence := by
  have howner' : ∀ g ∈ guards.reverse, g.owner = owner := fun g hg =>
    howner g (List.mem_reverse.mp hg)
  have hyoung' : ∀ g ∈ guards.reverse, n ≤ g.sequence := fun g hg =>
    hyoung g (List.mem_reverse.mp hg)
  obtain ⟨hswept, hgone⟩ := h.swept_foldl_leave howner' hyoung'
  exact ⟨hswept, fun f hf g hg => hgone f hf g (List.mem_reverse.mpr hg)⟩

end LayeredSettings.ContextStack
