import LayeredSettings.Context.Basic
import Mathlib.Data.List.MinMax
import Mathlib.Data.List.Nodup

/-!
# The numbers of frames and scopes

Frames and scopes take their numbers in the order in which they begin, so the numbers increase along
the stack of a thread and along nested scopes. Two facts follow. Leaving a frame keeps exactly the
older frames and those of other owners, although it is carried out by positions on the shared stack.
And what an owner sees is the youngest of all that it has entered and not left, and has open.
-/

namespace LayeredSettings

namespace ContextStack

/-- The frames that an owner has entered and not left, oldest first. -/
def framesOf (s : ContextStack) (owner : Owner) : List Frame :=
  s.frames.filter (·.owner = owner)

/-- The scopes that an owner has open, innermost first. -/
def scopesOf (s : ContextStack) (owner : Owner) : List Frame :=
  s.scopes.filter (·.owner = owner)

/-- The top of an owner's frames is the last that it entered. -/
theorem top?_eq_getLast? (s : ContextStack) (owner : Owner) :
    s.top? owner = (s.framesOf owner).getLast? := by
  simp [top?, framesOf]

/-- The innermost of an owner's scopes is the last that it opened. -/
theorem innermost?_eq_head? (s : ContextStack) (owner : Owner) :
    s.innermost? owner = (s.scopesOf owner).head? := by
  simp [innermost?, scopesOf]

/-- Frames and scopes are numbered in the order in which they began, each number used once. -/
structure Ordered (s : ContextStack) : Prop where
  /-- A frame further up the stack began later. -/
  frames_increasing : s.frames.Pairwise (·.sequence < ·.sequence)
  /-- A scope further in began later. -/
  scopes_decreasing : s.scopes.Pairwise (·.sequence > ·.sequence)
  /-- The next number is above those of all frames. -/
  frames_lt_next : ∀ f ∈ s.frames, f.sequence < s.next
  /-- The next number is above those of all scopes. -/
  scopes_lt_next : ∀ f ∈ s.scopes, f.sequence < s.next
  /-- No frame has the number of a scope. -/
  frames_ne_scopes : ∀ f ∈ s.frames, ∀ g ∈ s.scopes, f.sequence ≠ g.sequence

/-- A scope is known by its number. -/
theorem Ordered.scope_unique {s : ContextStack} (h : s.Ordered) {f g : Frame} (hf : f ∈ s.scopes)
    (hg : g ∈ s.scopes) (heq : f.sequence = g.sequence) : f = g :=
  List.inj_on_of_nodup_map
    (List.pairwise_map.mpr (h.scopes_decreasing.imp fun hlt => hlt.ne')) hf hg heq

/-- A thread without frames and scopes is ordered, whatever the next number. -/
theorem Ordered.of_bare {s : ContextStack} (hframes : s.frames = []) (hscopes : s.scopes = []) :
    s.Ordered := by
  constructor <;> simp [hframes, hscopes]

/-- Entering keeps the order, since the new frame takes a number above all others. -/
theorem Ordered.enter {s : ContextStack} (h : s.Ordered) (owner : Owner)
    (context : SettingsContext) : (s.enter owner context).Ordered where
  frames_increasing := by
    refine List.pairwise_append.mpr ⟨h.frames_increasing, List.pairwise_singleton _ _, ?_⟩
    intro f hf g hg
    rw [List.mem_singleton.mp hg]
    exact h.frames_lt_next f hf
  scopes_decreasing := h.scopes_decreasing
  frames_lt_next := by
    intro f hf
    rcases List.mem_append.mp hf with hf | hf
    · exact Nat.lt_succ_of_lt (h.frames_lt_next f hf)
    · rw [List.mem_singleton.mp hf]
      exact Nat.lt_succ_self s.next
  scopes_lt_next := fun f hf => Nat.lt_succ_of_lt (h.scopes_lt_next f hf)
  frames_ne_scopes := by
    intro f hf g hg
    rcases List.mem_append.mp hf with hf | hf
    · exact h.frames_ne_scopes f hf g hg
    · rw [List.mem_singleton.mp hf]
      exact (h.scopes_lt_next g hg).ne'

/-- Opening a scope keeps the order, since the scope takes a number above all others. -/
theorem Ordered.openScope {s : ContextStack} (h : s.Ordered) (owner : Owner)
    (context : SettingsContext) : (s.openScope owner context).Ordered where
  frames_increasing := h.frames_increasing
  scopes_decreasing := List.pairwise_cons.mpr ⟨h.scopes_lt_next, h.scopes_decreasing⟩
  frames_lt_next := fun f hf => Nat.lt_succ_of_lt (h.frames_lt_next f hf)
  scopes_lt_next := by
    intro f hf
    rcases List.mem_cons.mp hf with rfl | hf
    · exact Nat.lt_succ_self s.next
    · exact Nat.lt_succ_of_lt (h.scopes_lt_next f hf)
  frames_ne_scopes := by
    intro f hf g hg
    rcases List.mem_cons.mp hg with rfl | hg
    · exact (h.frames_lt_next f hf).ne
    · exact h.frames_ne_scopes f hf g hg

/-- Keeping only some frames and scopes, in their places, keeps the order. -/
theorem Ordered.of_sublist {s t : ContextStack} (h : s.Ordered)
    (hframes : t.frames.Sublist s.frames) (hscopes : t.scopes.Sublist s.scopes)
    (hnext : t.next = s.next) : t.Ordered where
  frames_increasing := h.frames_increasing.sublist hframes
  scopes_decreasing := h.scopes_decreasing.sublist hscopes
  frames_lt_next := fun f hf => hnext ▸ h.frames_lt_next f (hframes.subset hf)
  scopes_lt_next := fun f hf => hnext ▸ h.scopes_lt_next f (hscopes.subset hf)
  frames_ne_scopes := fun f hf g hg =>
    h.frames_ne_scopes f (hframes.subset hf) g (hscopes.subset hg)

/-- Taking the owner's frames off from a position on leaves the frames of lower numbers and those of
other owners. -/
private theorem sweep_eq_filter {frames : List Frame} {sequence position : ℕ} (owner : Owner)
    (hincreasing : frames.Pairwise (·.sequence < ·.sequence))
    (hposition : frames.findIdx? (·.sequence = sequence) = some position) :
    frames.take position ++ (frames.drop position).filter (·.owner ≠ owner) =
      frames.filter fun f => f.sequence < sequence ∨ f.owner ≠ owner := by
  obtain ⟨hlt, hfound, -⟩ := List.findIdx?_eq_some_iff_getElem.mp hposition
  have hsequence : frames[position].sequence = sequence := by simpa using hfound
  have hsplit : frames = frames.take position ++ frames.drop position :=
    (List.take_append_drop position frames).symm
  have hdrop : frames.drop position = frames[position] :: frames.drop (position + 1) :=
    List.drop_eq_getElem_cons hlt
  rw [hsplit] at hincreasing
  obtain ⟨-, hright, hacross⟩ := List.pairwise_append.mp hincreasing
  have hbelow : ∀ f ∈ frames.take position, f.sequence < sequence := by
    intro f hf
    rw [← hsequence]
    exact hacross f hf _ (by rw [hdrop]; exact List.mem_cons_self)
  have habove : ∀ f ∈ frames.drop position, sequence ≤ f.sequence := by
    rw [hdrop] at hright ⊢
    intro f hf
    rcases List.mem_cons.mp hf with rfl | hf
    · exact hsequence.ge
    · exact hsequence ▸ ((List.pairwise_cons.mp hright).1 f hf).le
  conv_rhs => rw [hsplit, List.filter_append]
  congr 1
  · exact (List.filter_eq_self.mpr fun f hf => by simp [hbelow f hf]).symm
  · exact List.filter_congr fun f hf => by simp [habove f hf]

/-- On an ordered stack leaving is a matter of numbers: if the frame is there, what remains are the
older frames and those of other owners. -/
theorem Ordered.leave_frames {s : ContextStack} (h : s.Ordered) (sequence : ℕ) (owner : Owner) :
    (s.leave sequence owner).frames =
      if ∃ f ∈ s.frames, f.sequence = sequence then
        s.frames.filter fun f => f.sequence < sequence ∨ f.owner ≠ owner
      else s.frames := by
  unfold ContextStack.leave
  cases hposition : s.frames.findIdx? (·.sequence = sequence) with
  | none =>
    have hgone : ¬∃ f ∈ s.frames, f.sequence = sequence := by
      simpa using List.findIdx?_eq_none_iff.mp hposition
    rw [if_neg hgone]
  | some position =>
    obtain ⟨hlt, hfound, -⟩ := List.findIdx?_eq_some_iff_getElem.mp hposition
    have hpresent : ∃ f ∈ s.frames, f.sequence = sequence :=
      ⟨s.frames[position], List.getElem_mem hlt, by simpa using hfound⟩
    rw [if_pos hpresent]
    exact sweep_eq_filter owner h.frames_increasing hposition

/-- Leaving a frame that is gone changes nothing. -/
theorem leave_of_gone {s : ContextStack} {sequence : ℕ} {owner : Owner}
    (hgone : ¬∃ f ∈ s.frames, f.sequence = sequence) : s.leave sequence owner = s := by
  have hposition : s.frames.findIdx? (·.sequence = sequence) = none :=
    List.findIdx?_eq_none_iff.mpr (by simpa using hgone)
  unfold leave
  rw [hposition]

/-- Leaving opens and closes no scope. -/
@[simp] theorem leave_scopes (s : ContextStack) (sequence : ℕ) (owner : Owner) :
    (s.leave sequence owner).scopes = s.scopes := by
  unfold leave
  split <;> rfl

/-- Leaving uses up no number. -/
@[simp] theorem leave_next (s : ContextStack) (sequence : ℕ) (owner : Owner) :
    (s.leave sequence owner).next = s.next := by
  unfold leave
  split <;> rfl

/-- Closing a scope keeps the order. -/
theorem Ordered.closeScope {s : ContextStack} (h : s.Ordered) (sequence : ℕ) :
    (s.closeScope sequence).Ordered :=
  h.of_sublist (List.Sublist.refl _) List.filter_sublist rfl

/-- A new frame goes on top of its owner's frames, and no other owner's frames change. -/
theorem framesOf_enter (s : ContextStack) (owner other : Owner) (context : SettingsContext) :
    (s.enter owner context).framesOf other =
      if other = owner then s.framesOf owner ++ [s.newFrame owner context]
      else s.framesOf other := by
  by_cases h : other = owner
  · subst h
    simp [framesOf, enter, newFrame]
  · simp [framesOf, enter, newFrame, h, Ne.symm h]

/-- A new scope is the innermost of its owner, and no other owner's scopes change. -/
theorem scopesOf_openScope (s : ContextStack) (owner other : Owner) (context : SettingsContext) :
    (s.openScope owner context).scopesOf other =
      if other = owner then s.newFrame owner context :: s.scopesOf owner
      else s.scopesOf other := by
  by_cases h : other = owner
  · subst h
    simp [scopesOf, openScope, newFrame]
  · simp [scopesOf, openScope, newFrame, h, Ne.symm h]

/-- Closing a scope takes the scope of that number away, and nothing else. -/
theorem scopesOf_closeScope (s : ContextStack) (sequence : ℕ) (owner : Owner) :
    (s.closeScope sequence).scopesOf owner =
      (s.scopesOf owner).filter (·.sequence ≠ sequence) := by
  simp [scopesOf, closeScope, Bool.and_comm]

/-- Closing the innermost scope of an owner takes the first of its scopes away. -/
theorem Ordered.scopesOf_closeScope_innermost {s : ContextStack} (h : s.Ordered)
    {owner other : Owner} {scope : Frame} (hscope : s.innermost? owner = some scope) :
    (s.closeScope scope.sequence).scopesOf other =
      if other = owner then (s.scopesOf owner).tail else s.scopesOf other := by
  rw [scopesOf_closeScope]
  rw [innermost?_eq_head?] at hscope
  obtain ⟨outer, hsplit⟩ := List.head?_eq_some_iff.mp hscope
  have hdecreasing : (s.scopesOf owner).Pairwise (·.sequence > ·.sequence) :=
    h.scopes_decreasing.filter _
  by_cases hother : other = owner
  · rw [if_pos hother, hother]
    rw [hsplit] at hdecreasing ⊢
    rw [List.filter_cons_of_neg (by simp), List.tail_cons]
    refine List.filter_eq_self.mpr fun f hf => ?_
    simpa using ((List.pairwise_cons.mp hdecreasing).1 f hf).ne
  · rw [if_neg hother]
    refine List.filter_eq_self.mpr fun f hf => ?_
    have hscope : scope ∈ s.scopesOf owner := by rw [hsplit]; exact List.mem_cons_self
    have hne : f ≠ scope := by
      rintro rfl
      simp only [scopesOf, List.mem_filter, decide_eq_true_eq] at hf hscope
      exact hother (hf.2.symm.trans hscope.2)
    have hnumber : f.sequence ≠ scope.sequence := fun heq =>
      hne (h.scope_unique (List.mem_of_mem_filter hf) (List.mem_of_mem_filter hscope) heq)
    simpa using hnumber

/-- Leaving leaves the scopes alone. -/
@[simp] theorem scopesOf_leave (s : ContextStack) (sequence : ℕ) (owner other : Owner) :
    (s.leave sequence owner).scopesOf other = s.scopesOf other := by
  simp [scopesOf]

/-- Leaving a frame changes no frame of another owner. -/
theorem Ordered.framesOf_leave_of_ne {s : ContextStack} (h : s.Ordered) (sequence : ℕ)
    {owner other : Owner} (hne : other ≠ owner) :
    (s.leave sequence owner).framesOf other = s.framesOf other := by
  unfold framesOf
  rw [h.leave_frames]
  split
  · rw [List.filter_filter]
    refine List.filter_congr fun f _ => ?_
    by_cases hf : f.owner = other <;> simp [hf, hne]
  · rfl

/-- Leaving a frame keeps exactly its owner's older frames, and leaving one that is gone keeps all.
-/
theorem Ordered.framesOf_leave {s : ContextStack} (h : s.Ordered) (sequence : ℕ) (owner : Owner) :
    (s.leave sequence owner).framesOf owner =
      if ∃ f ∈ s.frames, f.sequence = sequence then
        (s.framesOf owner).filter (·.sequence < sequence)
      else s.framesOf owner := by
  unfold framesOf
  rw [h.leave_frames]
  split
  · rw [List.filter_filter, List.filter_filter]
    refine List.filter_congr fun f _ => ?_
    by_cases hf : f.owner = owner <;> simp [hf]
  · rfl

/-- All that an owner may see: what it has entered and not left, and what it has open. -/
def visibleTo (s : ContextStack) (owner : Owner) : List Frame :=
  s.framesOf owner ++ s.scopesOf owner

/-- What an owner sees is settled by its own frames and scopes. -/
theorem current_congr {s t : ContextStack} {owner : Owner}
    (hframes : s.framesOf owner = t.framesOf owner)
    (hscopes : s.scopesOf owner = t.scopesOf owner) : s.current owner = t.current owner := by
  unfold current
  rw [top?_eq_getLast?, innermost?_eq_head?, hframes, hscopes, ← top?_eq_getLast?,
    ← innermost?_eq_head?]

/-- The top of an owner's frames is the youngest of them. -/
theorem Ordered.top?_eq_some {s : ContextStack} (h : s.Ordered) {owner : Owner} {f : Frame}
    (htop : s.top? owner = some f) :
    f ∈ s.framesOf owner ∧ ∀ g ∈ s.framesOf owner, g.sequence ≤ f.sequence := by
  rw [top?_eq_getLast?] at htop
  obtain ⟨older, hsplit⟩ := List.getLast?_eq_some_iff.mp htop
  have hincreasing : (s.framesOf owner).Pairwise (·.sequence < ·.sequence) :=
    h.frames_increasing.filter _
  rw [hsplit] at hincreasing ⊢
  refine ⟨List.mem_append_right _ (List.mem_singleton_self f), fun g hg => ?_⟩
  rcases List.mem_append.mp hg with hg | hg
  · exact ((List.pairwise_append.mp hincreasing).2.2 g hg f (List.mem_singleton_self f)).le
  · rw [List.mem_singleton.mp hg]

/-- The innermost of an owner's scopes is the youngest of them. -/
theorem Ordered.innermost?_eq_some {s : ContextStack} (h : s.Ordered) {owner : Owner} {f : Frame}
    (hinnermost : s.innermost? owner = some f) :
    f ∈ s.scopesOf owner ∧ ∀ g ∈ s.scopesOf owner, g.sequence ≤ f.sequence := by
  rw [innermost?_eq_head?] at hinnermost
  obtain ⟨outer, hsplit⟩ := List.head?_eq_some_iff.mp hinnermost
  have hdecreasing : (s.scopesOf owner).Pairwise (·.sequence > ·.sequence) :=
    h.scopes_decreasing.filter _
  rw [hsplit] at hdecreasing ⊢
  refine ⟨List.mem_cons_self, fun g hg => ?_⟩
  rcases List.mem_cons.mp hg with rfl | hg
  · exact le_rfl
  · exact ((List.pairwise_cons.mp hdecreasing).1 g hg).le

/-- Of all that an owner may see, no two have the same number. -/
theorem Ordered.nodup_visibleTo {s : ContextStack} (h : s.Ordered) (owner : Owner) :
    ((s.visibleTo owner).map (·.sequence)).Nodup := by
  refine List.pairwise_map.mpr (List.pairwise_append.mpr ⟨?_, ?_, fun f hf g hg => ?_⟩)
  · exact (h.frames_increasing.filter _).imp fun hlt => hlt.ne
  · exact (h.scopes_decreasing.filter _).imp fun hlt => hlt.ne'
  · exact h.frames_ne_scopes f (List.mem_of_mem_filter hf) g (List.mem_of_mem_filter hg)

/-- Of frames with different numbers the one of the greatest number is found. -/
private theorem argmax_eq_some_of_le {l : List Frame} (hnodup : (l.map (·.sequence)).Nodup)
    {f : Frame} (hf : f ∈ l) (hle : ∀ g ∈ l, g.sequence ≤ f.sequence) :
    l.argmax (·.sequence) = some f := by
  refine List.argmax_eq_some_iff.mpr ⟨hf, hle, fun g hg hfg => ?_⟩
  rw [List.inj_on_of_nodup_map hnodup hf hg (le_antisymm hfg (hle g hg))]

/-- The younger of an owner's top frame and its innermost scope is the youngest of all that it may
see. -/
theorem Ordered.younger_eq_argmax {s : ContextStack} (h : s.Ordered) (owner : Owner) :
    younger (s.top? owner) (s.innermost? owner) =
      (s.visibleTo owner).argmax (·.sequence) := by
  have hnodup := h.nodup_visibleTo owner
  symm
  cases htop : s.top? owner with
  | none =>
    have hframes : s.framesOf owner = [] := by
      rwa [top?_eq_getLast?, List.getLast?_eq_none_iff] at htop
    cases hinnermost : s.innermost? owner with
    | none =>
      have hscopes : s.scopesOf owner = [] := by
        rwa [innermost?_eq_head?, List.head?_eq_none_iff] at hinnermost
      simp [visibleTo, hframes, hscopes, younger]
    | some g =>
      obtain ⟨hg, hgle⟩ := h.innermost?_eq_some hinnermost
      refine argmax_eq_some_of_le hnodup (List.mem_append_right _ hg) fun f hf => ?_
      rw [visibleTo, hframes, List.nil_append] at hf
      exact hgle f hf
  | some f =>
    obtain ⟨hf, hfle⟩ := h.top?_eq_some htop
    cases hinnermost : s.innermost? owner with
    | none =>
      have hscopes : s.scopesOf owner = [] := by
        rwa [innermost?_eq_head?, List.head?_eq_none_iff] at hinnermost
      refine argmax_eq_some_of_le hnodup (List.mem_append_left _ hf) fun g hg => ?_
      rw [visibleTo, hscopes, List.append_nil] at hg
      exact hfle g hg
    | some g =>
      obtain ⟨hg, hgle⟩ := h.innermost?_eq_some hinnermost
      by_cases hfg : f.sequence ≤ g.sequence
      · rw [younger, if_pos hfg]
        refine argmax_eq_some_of_le hnodup (List.mem_append_right _ hg) fun e he => ?_
        rcases List.mem_append.mp he with he | he
        · exact (hfle e he).trans hfg
        · exact hgle e he
      · rw [younger, if_neg hfg]
        refine argmax_eq_some_of_le hnodup (List.mem_append_left _ hf) fun e he => ?_
        rcases List.mem_append.mp he with he | he
        · exact hfle e he
        · exact (hgle e he).trans (le_of_not_ge hfg)

/-- An owner sees the youngest of all that it may see, and gets an error only if there is nothing.
-/
theorem Ordered.current_eq {s : ContextStack} (h : s.Ordered) (owner : Owner) :
    s.current owner =
      match (s.visibleTo owner).argmax (·.sequence) with
      | some frame => .ok frame.context
      | none => .error .noActiveContext := by
  unfold current
  cases hyoungest : (s.visibleTo owner).argmax (·.sequence) with
  | none => simp only [h.younger_eq_argmax, hyoungest]
  | some frame => simp only [h.younger_eq_argmax, hyoungest]

end ContextStack

end LayeredSettings
