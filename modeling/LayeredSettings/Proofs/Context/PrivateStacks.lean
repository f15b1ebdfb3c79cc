import LayeredSettings.Proofs.Context.Numbering
import LayeredSettings.Proofs.Context.ThreadStack
import Mathlib.Logic.Function.Basic

/-!
# Private stacks

All work on a thread shares one stack, in any order: tasks and the code outside tasks enter
contexts, open and close scopes, and drop or forget guards. The main statement is that this is as
good as one private stack for each owner. A run of moves on the shared stack agrees with the same
run on private stacks, where entering pushes on one stack, dropping a guard cuts one stack back to
what is older than its frame, and what an owner sees is the youngest of its own frames and scopes.
-/

namespace LayeredSettings

/-- One thing that work on a thread does with contexts, and the owner at work. A guard goes by the
number of its frame, and may be dropped by another owner than it was given to. -/
inductive Move where
  | use (sources : Sources) (owner : Owner) (request : Request) (hook : Option Hook)
  | temporary (sources : Sources) (owner : Owner) (overrides : Overrides)
  | enter (owner : Owner) (context : SettingsContext)
  | drop (owner : Owner) (sequence : ℕ)
  | forget (sequence : ℕ)
  | openScope (owner : Owner) (context : SettingsContext)
  | closeScope (owner : Owner)

/-- The owner that a move enters a context for, if that is what it does. -/
def Move.entrant? : Move → Option Owner
  | use _ owner _ _ | temporary _ owner _ | enter owner _ => some owner
  | drop .. | forget _ | openScope .. | closeScope _ => none

/-- The guard of a number among some guards. -/
def guardOf? (guards : List Guard) (sequence : ℕ) : Option Guard :=
  guards.find? (·.sequence = sequence)

/-- The guards without the one of a number. -/
def guardsWithout (guards : List Guard) (sequence : ℕ) : List Guard :=
  guards.filter (·.sequence ≠ sequence)

/-- A thread with the guards that have been given out and neither dropped nor forgotten. -/
structure GuardedThread where
  thread : Thread
  guards : List Guard

namespace GuardedThread

/-- A thread on which nothing has happened. -/
def start (filter : LevelFilter) : GuardedThread := ⟨.start filter, []⟩

/-- The thread after an attempt to enter a context, with the guard if there is one. -/
def keep (w : GuardedThread) (result : Except SettingsError Guard × Thread) : GuardedThread :=
  ⟨result.2, w.guards ++ result.1.toOption.toList⟩

/-- The thread after a move. -/
def move (w : GuardedThread) : Move → GuardedThread
  | .use sources owner request hook => w.keep (w.thread.use sources owner request hook)
  | .temporary sources owner overrides => w.keep (w.thread.temporary sources owner overrides)
  | .enter owner context =>
    let (guard, thread) := w.thread.enter owner context none
    w.keep (.ok guard, thread)
  | .drop owner sequence =>
    match guardOf? w.guards sequence with
    | none => w
    | some guard => ⟨w.thread.leave owner guard, guardsWithout w.guards sequence⟩
  | .forget sequence => { w with guards := guardsWithout w.guards sequence }
  | .openScope owner context =>
    { w with thread := { w.thread with stack := w.thread.stack.openScope owner context } }
  | .closeScope owner =>
    match w.thread.stack.innermost? owner with
    | none => w
    | some scope =>
      { w with
        thread := { w.thread with stack := w.thread.stack.closeScope scope.sequence } }

/-- The thread after several moves. -/
def run (w : GuardedThread) (moves : List Move) : GuardedThread := moves.foldl move w

/-- The owner whose frames or scopes a move is about: for a drop, the one that the guard was given
to. -/
def subject? (w : GuardedThread) : Move → Option Owner
  | .use _ owner _ _ | .temporary _ owner _ | .enter owner _ | .openScope owner _
  | .closeScope owner => some owner
  | .drop _ sequence => (guardOf? w.guards sequence).map (·.owner)
  | .forget _ => none

end GuardedThread

/-- For each owner a stack of its own, with the oldest frame first, and its open scopes, with the
innermost first. The guards given out and the next number are common to all. -/
@[ext]
structure PrivateStacks where
  frames : Owner → List Frame
  scopes : Owner → List Frame
  guards : List Guard
  next : ℕ

namespace PrivateStacks

/-- No frames, no scopes and no guards. -/
def empty : PrivateStacks := ⟨fun _ => [], fun _ => [], [], 0⟩

/-- The youngest of the frames and scopes of an owner, or the error that there are none. -/
def current (p : PrivateStacks) (owner : Owner) : Except SettingsError SettingsContext :=
  match (p.frames owner ++ p.scopes owner).argmax (·.sequence) with
  | some frame => .ok frame.context
  | none => .error .noActiveContext

/-- A context pushed on the stack of its owner, and nothing at all if there is an error instead. -/
def push (p : PrivateStacks) (owner : Owner) (hook : Option Hook) :
    Except SettingsError SettingsContext → PrivateStacks
  | .ok context =>
    { p with
      frames := Function.update p.frames owner (p.frames owner ++ [⟨p.next, owner, context⟩])
      guards := p.guards ++ [⟨p.next, owner, context, hook⟩]
      next := p.next + 1 }
  | .error _ => p

/-- The stack of a guard's owner cut back to the frames older than the guard's, if it is there. -/
def cut (p : PrivateStacks) (guard : Guard) : PrivateStacks :=
  if ∃ f ∈ p.frames guard.owner, f.sequence = guard.sequence then
    { p with
      frames := Function.update p.frames guard.owner
        ((p.frames guard.owner).filter (·.sequence < guard.sequence)) }
  else p

/-- The stacks after a move. -/
def move (p : PrivateStacks) : Move → PrivateStacks
  | .use sources owner request hook =>
    p.push owner hook (sources.admitted (p.current owner) request hook)
  | .temporary sources owner overrides =>
    p.push owner none (sources.temporary (p.current owner) overrides)
  | .enter owner context => p.push owner none (.ok context)
  | .drop _ sequence =>
    match guardOf? p.guards sequence with
    | none => p
    | some guard => { p.cut guard with guards := guardsWithout p.guards sequence }
  | .forget sequence => { p with guards := guardsWithout p.guards sequence }
  | .openScope owner context =>
    { p with
      scopes := Function.update p.scopes owner (⟨p.next, owner, context⟩ :: p.scopes owner)
      next := p.next + 1 }
  | .closeScope owner =>
    { p with scopes := Function.update p.scopes owner (p.scopes owner).tail }

/-- The stacks after several moves. -/
def run (p : PrivateStacks) (moves : List Move) : PrivateStacks := moves.foldl move p

/-- A push leaves the frames as they are, or adds one to those of its owner. -/
theorem push_frames (p : PrivateStacks) (owner : Owner) (hook : Option Hook)
    (attempt : Except SettingsError SettingsContext) :
    (p.push owner hook attempt).frames = p.frames ∨
      ∃ context, (p.push owner hook attempt).frames =
        Function.update p.frames owner (p.frames owner ++ [⟨p.next, owner, context⟩]) := by
  cases attempt with
  | ok context => exact Or.inr ⟨context, rfl⟩
  | error e => exact Or.inl rfl

/-- A push is of no concern to other owners. -/
theorem push_of_ne (p : PrivateStacks) {owner other : Owner} (hne : owner ≠ other)
    (hook : Option Hook) (attempt : Except SettingsError SettingsContext) :
    (p.push other hook attempt).frames owner = p.frames owner ∧
      (p.push other hook attempt).scopes owner = p.scopes owner := by
  cases attempt with
  | ok context => exact ⟨Function.update_of_ne hne _ _, rfl⟩
  | error e => exact ⟨rfl, rfl⟩

/-- A cut is of no concern to other owners than the guard's. -/
theorem cut_of_ne (p : PrivateStacks) {owner : Owner} {guard : Guard} (hne : owner ≠ guard.owner) :
    (p.cut guard).frames owner = p.frames owner ∧ (p.cut guard).scopes owner = p.scopes owner := by
  unfold cut
  split
  · exact ⟨Function.update_of_ne hne _ _, rfl⟩
  · exact ⟨rfl, rfl⟩

end PrivateStacks

namespace GuardedThread

/-- The shared stack split by owner. -/
def split (w : GuardedThread) : PrivateStacks where
  frames := w.thread.stack.framesOf
  scopes := w.thread.stack.scopesOf
  guards := w.guards
  next := w.thread.stack.next

/-- Splitting the stack keeps the guards. -/
@[simp] theorem split_guards (w : GuardedThread) : w.split.guards = w.guards := rfl

/-- What holds of a thread at all times: its stack is ordered, and a guard belongs to one frame at
most, which has the guard's owner. -/
structure Sound (w : GuardedThread) : Prop where
  /-- Numbers increase along the stack and along nested scopes. -/
  ordered : w.thread.stack.Ordered
  /-- No two guards have the same number. -/
  nodup_guards : (w.guards.map (·.sequence)).Nodup
  /-- The next number is above those of all guards. -/
  guards_lt_next : ∀ g ∈ w.guards, g.sequence < w.thread.stack.next
  /-- A guard and a frame of one number have one owner. -/
  owner_eq : ∀ g ∈ w.guards, ∀ f ∈ w.thread.stack.frames, f.sequence = g.sequence →
    f.owner = g.owner

/-- A thread on which nothing has happened is sound. -/
theorem Sound.start (filter : LevelFilter) : (GuardedThread.start filter).Sound where
  ordered := ContextStack.Ordered.of_bare rfl rfl
  nodup_guards := List.nodup_nil
  guards_lt_next := by simp [GuardedThread.start]
  owner_eq := by simp [GuardedThread.start]

/-- What an owner sees on a sound thread is what it sees on the private stacks. -/
theorem Sound.current_eq {w : GuardedThread} (h : w.Sound) (owner : Owner) :
    w.thread.current owner = w.split.current owner :=
  h.ordered.current_eq owner

/-- Entering a context on a sound thread keeps it sound: the new guard and the new frame share a
number that nothing else has. -/
theorem Sound.enter {w : GuardedThread} (h : w.Sound) {thread : Thread} (owner : Owner)
    (context : SettingsContext) (hook : Option Hook)
    (hstack : thread.stack = w.thread.stack.enter owner context) :
    (GuardedThread.mk thread
      (w.guards ++ [⟨w.thread.stack.next, owner, context, hook⟩])).Sound where
  ordered := hstack ▸ h.ordered.enter owner context
  nodup_guards := by
    rw [List.map_append, List.nodup_append]
    refine ⟨h.nodup_guards, List.nodup_singleton _, ?_⟩
    intro a ha b hb
    obtain ⟨g, hg, rfl⟩ := List.mem_map.mp ha
    have hlt := h.guards_lt_next g hg
    have hb' : b = w.thread.stack.next := by simpa using hb
    omega
  guards_lt_next := by
    intro g hg
    have hnext : thread.stack.next = w.thread.stack.next + 1 := by rw [hstack]; rfl
    rcases List.mem_append.mp hg with hg | hg
    · have hlt := h.guards_lt_next g hg
      simp only [hnext]
      omega
    · rw [List.mem_singleton.mp hg]
      simp only [hnext]
      omega
  owner_eq := by
    intro g hg f hf hsequence
    simp only [hstack] at hf
    rcases List.mem_append.mp hg with hg | hg <;> rcases List.mem_append.mp hf with hf | hf
    · exact h.owner_eq g hg f hf hsequence
    · have hlt := h.guards_lt_next g hg
      rw [List.mem_singleton.mp hf] at hsequence
      exact absurd hsequence hlt.ne'
    · have hlt := h.ordered.frames_lt_next f hf
      rw [List.mem_singleton.mp hg] at hsequence
      exact absurd hsequence hlt.ne
    · rw [List.mem_singleton.mp hf, List.mem_singleton.mp hg]
      rfl

/-- Entering a context pushes on one private stack. -/
theorem split_enter {w : GuardedThread} {thread : Thread} (owner : Owner)
    (context : SettingsContext) (hook : Option Hook)
    (hstack : thread.stack = w.thread.stack.enter owner context) :
    (GuardedThread.mk thread (w.guards ++ [⟨w.thread.stack.next, owner, context, hook⟩])).split =
      w.split.push owner hook (.ok context) := by
  ext1
  · funext other
    simp only [split, hstack, PrivateStacks.push, Function.update_apply,
      ContextStack.framesOf_enter]
    rfl
  · simp only [split, hstack]
    rfl
  · rfl
  · simp only [split, hstack]
    rfl

/-- An attempt to enter a context keeps a sound thread sound, and is one push on the private stacks.
-/
theorem Sound.keep {w : GuardedThread} (h : w.Sound) {result : Except SettingsError Guard × Thread}
    {owner : Owner} {hook : Option Hook} {attempt : Except SettingsError SettingsContext}
    (hguard : result.1 = w.thread.attemptGuard owner hook attempt)
    (hstack : result.2.stack = w.thread.stack.attempt owner attempt) :
    (w.keep result).Sound ∧ (w.keep result).split = w.split.push owner hook attempt := by
  unfold GuardedThread.keep
  rw [hguard]
  cases attempt with
  | ok context => exact ⟨h.enter owner context hook hstack, split_enter owner context hook hstack⟩
  | error e =>
    have hguards : w.guards ++ (w.thread.attemptGuard owner hook (.error e)).toOption.toList =
        w.guards := List.append_nil _
    have hsame : result.2.stack = w.thread.stack := hstack
    rw [hguards]
    refine ⟨⟨?_, h.nodup_guards, ?_, ?_⟩, ?_⟩
    · exact hsame ▸ h.ordered
    · exact hsame ▸ h.guards_lt_next
    · exact hsame ▸ h.owner_eq
    · simp only [split, hsame, PrivateStacks.push]

/-- Among guards of different numbers, the one of a guard's number is that guard. -/
theorem guardOf?_eq_some_iff {guards : List Guard} (hnodup : (guards.map (·.sequence)).Nodup)
    {sequence : ℕ} {guard : Guard} :
    guardOf? guards sequence = some guard ↔ guard ∈ guards ∧ guard.sequence = sequence := by
  unfold guardOf?
  constructor
  · intro hfind
    exact ⟨List.mem_of_find?_eq_some hfind, by simpa using List.find?_some hfind⟩
  · rintro ⟨hmem, rfl⟩
    cases hfind : guards.find? (·.sequence = guard.sequence) with
    | none => simpa using List.find?_eq_none.mp hfind guard hmem
    | some other =>
      have hother : other.sequence = guard.sequence := by simpa using List.find?_some hfind
      rw [List.inj_on_of_nodup_map hnodup (List.mem_of_find?_eq_some hfind) hmem hother]

/-- The frame of a guard is on the shared stack exactly if it is on the stack of the guard's owner.
-/
theorem Sound.exists_frame_iff {w : GuardedThread} (h : w.Sound) {guard : Guard}
    (hguard : guard ∈ w.guards) :
    (∃ f ∈ w.thread.stack.frames, f.sequence = guard.sequence) ↔
      ∃ f ∈ w.split.frames guard.owner, f.sequence = guard.sequence := by
  constructor
  · rintro ⟨f, hf, hsequence⟩
    refine ⟨f, List.mem_filter.mpr ⟨hf, ?_⟩, hsequence⟩
    simpa using h.owner_eq guard hguard f hf hsequence
  · rintro ⟨f, hf, hsequence⟩
    exact ⟨f, List.mem_of_mem_filter hf, hsequence⟩

/-- A thread stays sound when it loses guards, and frames or scopes, but no numbers. -/
theorem Sound.of_sublist {w : GuardedThread} (h : w.Sound) {thread : Thread} {guards : List Guard}
    (hframes : thread.stack.frames.Sublist w.thread.stack.frames)
    (hscopes : thread.stack.scopes.Sublist w.thread.stack.scopes)
    (hnext : thread.stack.next = w.thread.stack.next) (hguards : guards.Sublist w.guards) :
    (GuardedThread.mk thread guards).Sound where
  ordered := h.ordered.of_sublist hframes hscopes hnext
  nodup_guards := h.nodup_guards.sublist (hguards.map _)
  guards_lt_next := fun g hg => by
    rw [hnext]
    exact h.guards_lt_next g (hguards.subset hg)
  owner_eq := fun g hg f hf => h.owner_eq g (hguards.subset hg) f (hframes.subset hf)

/-- Dropping a guard keeps a sound thread sound. -/
theorem Sound.leave {w : GuardedThread} (h : w.Sound) (owner : Owner) (guard : Guard)
    (sequence : ℕ) :
    (GuardedThread.mk (w.thread.leave owner guard) (guardsWithout w.guards sequence)).Sound := by
  refine h.of_sublist ?_ (by simp) (by simp) List.filter_sublist
  rw [Thread.leave_stack, h.ordered.leave_frames]
  split
  · exact List.filter_sublist
  · exact List.Sublist.refl _

/-- Dropping a guard of a sound thread cuts one private stack. -/
theorem Sound.split_leave {w : GuardedThread} (h : w.Sound) (owner : Owner) {guard : Guard}
    (hguard : guard ∈ w.guards) (sequence : ℕ) :
    (GuardedThread.mk (w.thread.leave owner guard) (guardsWithout w.guards sequence)).split =
      { w.split.cut guard with guards := guardsWithout w.guards sequence } := by
  have hpresent := h.exists_frame_iff hguard
  unfold PrivateStacks.cut
  by_cases hgone : ∃ f ∈ w.split.frames guard.owner, f.sequence = guard.sequence
  · rw [if_pos hgone]
    ext1
    · funext other
      simp only [split, Thread.leave_stack, Function.update_apply]
      by_cases hother : other = guard.owner
      · rw [if_pos hother, hother, h.ordered.framesOf_leave, if_pos (hpresent.mpr hgone)]
      · rw [if_neg hother, h.ordered.framesOf_leave_of_ne _ hother]
    · funext other
      simp [split]
    · rfl
    · simp [split]
  · rw [if_neg hgone]
    ext1
    · funext other
      simp only [split, Thread.leave_stack]
      by_cases hother : other = guard.owner
      · rw [hother, h.ordered.framesOf_leave, if_neg fun hthere => hgone (hpresent.mp hthere)]
      · rw [h.ordered.framesOf_leave_of_ne _ hother]
    · funext other
      simp [split]
    · rfl
    · simp [split]

/-- Opening a scope keeps a sound thread sound. -/
theorem Sound.openScope {w : GuardedThread} (h : w.Sound) (owner : Owner)
    (context : SettingsContext) : (w.move (.openScope owner context)).Sound where
  ordered := h.ordered.openScope owner context
  nodup_guards := h.nodup_guards
  guards_lt_next := fun g hg => Nat.lt_succ_of_lt (h.guards_lt_next g hg)
  owner_eq := h.owner_eq

/-- Opening a scope adds one scope to those of its owner. -/
theorem split_openScope (w : GuardedThread) (owner : Owner) (context : SettingsContext) :
    (w.move (.openScope owner context)).split = w.split.move (.openScope owner context) := by
  ext1
  · rfl
  · funext other
    simp only [split, GuardedThread.move, PrivateStacks.move, Function.update_apply,
      ContextStack.scopesOf_openScope]
    rfl
  · rfl
  · rfl

/-- Closing an owner's innermost scope keeps a sound thread sound. -/
theorem Sound.closeScope {w : GuardedThread} (h : w.Sound) (owner : Owner) :
    (w.move (.closeScope owner)).Sound := by
  simp only [GuardedThread.move]
  split
  · exact h
  · exact h.of_sublist (List.Sublist.refl _) List.filter_sublist rfl (List.Sublist.refl _)

/-- Closing an owner's innermost scope takes the first away of that owner's. -/
theorem Sound.split_closeScope {w : GuardedThread} (h : w.Sound) (owner : Owner) :
    (w.move (.closeScope owner)).split = w.split.move (.closeScope owner) := by
  simp only [GuardedThread.move, PrivateStacks.move]
  cases hinnermost : w.thread.stack.innermost? owner with
  | none =>
    have hscopes : w.split.scopes owner = [] := by
      rwa [ContextStack.innermost?_eq_head?, List.head?_eq_none_iff] at hinnermost
    rw [hscopes, List.tail_nil, ← hscopes, Function.update_eq_self]
  | some scope =>
    ext1
    · rfl
    · funext other
      simp only [split, Function.update_apply]
      rw [h.ordered.scopesOf_closeScope_innermost hinnermost]
    · rfl
    · rfl

/-- A move keeps a sound thread sound. -/
theorem Sound.move {w : GuardedThread} (h : w.Sound) (m : Move) : (w.move m).Sound := by
  cases m with
  | use sources owner request hook =>
    exact (h.keep (w.thread.use_fst ..) (w.thread.use_snd_stack ..)).1
  | temporary sources owner overrides =>
    exact (h.keep (w.thread.temporary_fst ..) (w.thread.temporary_snd_stack ..)).1
  | enter owner context => exact h.enter owner context none rfl
  | drop owner sequence =>
    simp only [GuardedThread.move]
    split
    · exact h
    · exact h.leave owner _ sequence
  | forget sequence =>
    exact h.of_sublist (List.Sublist.refl _) (List.Sublist.refl _) rfl List.filter_sublist
  | openScope owner context => exact h.openScope owner context
  | closeScope owner => exact h.closeScope owner

/-- A move on the shared stack is the same move on the private stacks. -/
theorem Sound.split_move {w : GuardedThread} (h : w.Sound) (m : Move) :
    (w.move m).split = w.split.move m := by
  cases m with
  | use sources owner request hook =>
    have hkeep := (h.keep (w.thread.use_fst sources owner request hook)
      (w.thread.use_snd_stack sources owner request hook)).2
    rwa [h.current_eq] at hkeep
  | temporary sources owner overrides =>
    have hkeep := (h.keep (w.thread.temporary_fst sources owner overrides)
      (w.thread.temporary_snd_stack sources owner overrides)).2
    rwa [h.current_eq] at hkeep
  | enter owner context => exact split_enter owner context none rfl
  | drop owner sequence =>
    simp only [GuardedThread.move, PrivateStacks.move, split_guards]
    cases hguard : guardOf? w.guards sequence with
    | none => rfl
    | some guard =>
      exact h.split_leave owner ((guardOf?_eq_some_iff h.nodup_guards).mp hguard).1 sequence
  | forget sequence => rfl
  | openScope owner context => exact split_openScope w owner context
  | closeScope owner => exact h.split_closeScope owner

/-- A run keeps a sound thread sound. -/
theorem Sound.run {w : GuardedThread} (h : w.Sound) (moves : List Move) : (w.run moves).Sound := by
  induction moves generalizing w with
  | nil => exact h
  | cons m rest ih => exact ih (h.move m)

/-- A run on the shared stack is the same run on the private stacks. -/
theorem Sound.split_run {w : GuardedThread} (h : w.Sound) (moves : List Move) :
    (w.run moves).split = w.split.run moves := by
  induction moves generalizing w with
  | nil => rfl
  | cons m rest ih =>
    have hrest := ih (h.move m)
    rw [h.split_move] at hrest
    exact hrest

/-- A move changes the frames and scopes of the owner that it is about, and of no other. -/
theorem Sound.split_move_of_ne {w : GuardedThread} (h : w.Sound) {m : Move} {owner : Owner}
    (hne : w.subject? m ≠ some owner) :
    (w.move m).split.frames owner = w.split.frames owner ∧
      (w.move m).split.scopes owner = w.split.scopes owner := by
  rw [h.split_move]
  cases m with
  | use sources other request hook =>
    exact PrivateStacks.push_of_ne _ (fun heq => hne (congrArg some heq.symm)) hook _
  | temporary sources other overrides =>
    exact PrivateStacks.push_of_ne _ (fun heq => hne (congrArg some heq.symm)) none _
  | enter other context =>
    exact PrivateStacks.push_of_ne _ (fun heq => hne (congrArg some heq.symm)) none (.ok context)
  | drop dropper sequence =>
    simp only [subject?] at hne
    simp only [PrivateStacks.move, split_guards]
    cases hguard : guardOf? w.guards sequence with
    | none => exact ⟨rfl, rfl⟩
    | some guard =>
      exact PrivateStacks.cut_of_ne _ fun heq => hne (by rw [hguard, heq]; rfl)
  | forget sequence => exact ⟨rfl, rfl⟩
  | openScope other context =>
    exact ⟨rfl, Function.update_of_ne (fun heq => hne (congrArg some heq.symm)) _ _⟩
  | closeScope other =>
    exact ⟨rfl, Function.update_of_ne (fun heq => hne (congrArg some heq.symm)) _ _⟩

/-- Dropping a guard whose frame is there keeps exactly the older frames of the guard's owner. -/
theorem Sound.frames_drop {w : GuardedThread} (h : w.Sound) {guard : Guard}
    (hguard : guard ∈ w.guards) (dropper : Owner)
    (hthere : ∃ f ∈ w.split.frames guard.owner, f.sequence = guard.sequence) :
    (w.move (.drop dropper guard.sequence)).split.frames guard.owner =
      (w.split.frames guard.owner).filter (·.sequence < guard.sequence) := by
  have hfound : guardOf? w.guards guard.sequence = some guard :=
    (guardOf?_eq_some_iff h.nodup_guards).mpr ⟨hguard, rfl⟩
  rw [h.split_move]
  simp only [PrivateStacks.move, split_guards, hfound, PrivateStacks.cut, if_pos hthere,
    Function.update_self]

/-- Dropping a guard whose frame is gone changes nothing on the shared stack. -/
theorem Sound.stack_drop_of_gone {w : GuardedThread} (h : w.Sound) {guard : Guard}
    (hguard : guard ∈ w.guards) (dropper : Owner)
    (hgone : ∀ f ∈ w.split.frames guard.owner, f.sequence ≠ guard.sequence) :
    (w.move (.drop dropper guard.sequence)).thread.stack = w.thread.stack := by
  have hfound : guardOf? w.guards guard.sequence = some guard :=
    (guardOf?_eq_some_iff h.nodup_guards).mpr ⟨hguard, rfl⟩
  have hnowhere : ¬∃ f ∈ w.thread.stack.frames, f.sequence = guard.sequence := by
    rw [h.exists_frame_iff hguard]
    rintro ⟨f, hf, heq⟩
    exact hgone f hf heq
  simp only [GuardedThread.move, hfound, Thread.leave_stack]
  exact ContextStack.leave_of_gone hnowhere

/-- A thread on which every owner acts as if it had a stack of its own. -/
structure ActsPrivately (w : GuardedThread) : Prop where
  /-- An attempt to enter a context does nothing, or pushes one frame on the stack of its owner. -/
  entering : ∀ m owner, m.entrant? = some owner →
    (w.move m).split.frames = w.split.frames ∨
      ∃ context, (w.move m).split.frames =
        Function.update w.split.frames owner
          (w.split.frames owner ++ [⟨w.split.next, owner, context⟩])
  /-- A dropped guard whose frame is there takes that frame and the younger ones of its owner. -/
  dropping : ∀ guard ∈ w.guards, ∀ dropper,
    (∃ f ∈ w.split.frames guard.owner, f.sequence = guard.sequence) →
      (w.move (.drop dropper guard.sequence)).split.frames guard.owner =
        (w.split.frames guard.owner).filter (·.sequence < guard.sequence)
  /-- A dropped guard whose frame is gone changes no stack. -/
  dropping_gone : ∀ guard ∈ w.guards, ∀ dropper,
    (∀ f ∈ w.split.frames guard.owner, f.sequence ≠ guard.sequence) →
      (w.move (.drop dropper guard.sequence)).thread.stack = w.thread.stack
  /-- The frames and scopes of an owner that a move is not about stay as they are. -/
  others : ∀ m owner, w.subject? m ≠ some owner →
    (w.move m).split.frames owner = w.split.frames owner ∧
      (w.move m).split.scopes owner = w.split.scopes owner
  /-- What an owner sees is the youngest of its own frames and scopes. -/
  seeing : ∀ owner, w.thread.current owner = w.split.current owner
  /-- There is one youngest, for no two of them have the same number. -/
  numbers : ∀ owner, ((w.split.frames owner ++ w.split.scopes owner).map (·.sequence)).Nodup

/-- On a sound thread every owner acts as if it had a stack of its own. -/
theorem Sound.actsPrivately {w : GuardedThread} (h : w.Sound) : w.ActsPrivately where
  entering := by
    intro m owner hm
    rw [h.split_move]
    cases m with
    | use sources other request hook =>
      exact Option.some.inj hm ▸ PrivateStacks.push_frames _ other hook _
    | temporary sources other overrides =>
      exact Option.some.inj hm ▸ PrivateStacks.push_frames _ other none _
    | enter other context =>
      exact Option.some.inj hm ▸ PrivateStacks.push_frames _ other none (.ok context)
    | drop | forget | openScope | closeScope => cases hm
  dropping := fun _ hguard dropper hthere => h.frames_drop hguard dropper hthere
  dropping_gone := fun _ hguard dropper hgone => h.stack_drop_of_gone hguard dropper hgone
  others := fun _ _ hne => h.split_move_of_ne hne
  seeing := h.current_eq
  numbers := h.ordered.nodup_visibleTo

/-- Whatever moves tasks and the code outside tasks make on a thread, and in whatever order, the
shared stack split by owner is what the same moves make of private stacks, and at each moment every
owner acts as if it had a stack of its own. -/
theorem shared_stack_refines_private_stacks (filter : LevelFilter) (moves : List Move) :
    ((GuardedThread.start filter).run moves).split = PrivateStacks.empty.run moves ∧
      ((GuardedThread.start filter).run moves).ActsPrivately :=
  ⟨(Sound.start filter).split_run moves, ((Sound.start filter).run moves).actsPrivately⟩

end GuardedThread

end LayeredSettings
