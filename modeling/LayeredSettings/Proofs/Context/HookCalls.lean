import LayeredSettings.Proofs.Context.QuietHooks
import LayeredSettings.Proofs.Lists
import Mathlib.Algebra.Order.Group.Multiset
import Mathlib.Tactic.Abel

/-!
# Hook calls over a run

What tasks and the code outside tasks do on a thread decides which hooks are called, with what, and
in which order. Each context that is built is shown to its hook once. Each guard has one of three
fates: it is dropped, it is forgotten, or it is still there; and its hook is told only if it was
dropped, once, also if its frame had gone before.
-/

namespace LayeredSettings.GuardedThread

/-- The guard that a move gives, if any. -/
def given? (w : GuardedThread) : Move → Option Guard
  | .use sources owner request hook => (w.thread.use sources owner request hook).1.toOption
  | .temporary sources owner overrides => (w.thread.temporary sources owner overrides).1.toOption
  | .enter owner context => some (w.thread.enter owner context none).1
  | .drop .. | .forget _ | .openScope .. | .closeScope _ => none

/-- The guard that a move drops, if any. -/
def dropped? (w : GuardedThread) : Move → Option Guard
  | .drop _ sequence => guardOf? w.guards sequence
  | .use .. | .temporary .. | .enter .. | .forget _ | .openScope .. | .closeScope _ => none

/-- The guard that a move forgets, if any. -/
def forgotten? (w : GuardedThread) : Move → Option Guard
  | .forget sequence => guardOf? w.guards sequence
  | .use .. | .temporary .. | .enter .. | .drop .. | .openScope .. | .closeScope _ => none

/-- The hook calls that a move is to make. A hook is asked about the context of its request if that
can be built, and told what the dropping owner sees after its guard was dropped. -/
def callsOf (w : GuardedThread) : Move → List HookCall
  | .use sources owner request hook =>
    hook.toList.flatMap fun asked =>
      (sources.build (w.thread.current owner) request).toOption.toList.map (.enter asked.label)
  | .drop owner sequence =>
    (w.dropped? (.drop owner sequence)).toList.flatMap fun guard =>
      guard.hook.toList.map fun told =>
        .exit told.label ((w.move (.drop owner sequence)).thread.current owner).toOption
  | .temporary .. | .enter .. | .forget _ | .openScope .. | .closeScope _ => []

/-- The moves of a run, each with the thread on which it is made. -/
def trail (w : GuardedThread) : List Move → List (GuardedThread × Move)
  | [] => []
  | m :: rest => (w, m) :: (w.move m).trail rest

/-- The guards given in a run. -/
def givenIn (w : GuardedThread) (moves : List Move) : List Guard :=
  (w.trail moves).filterMap fun (v, m) => v.given? m

/-- The guards dropped in a run. -/
def droppedIn (w : GuardedThread) (moves : List Move) : List Guard :=
  (w.trail moves).filterMap fun (v, m) => v.dropped? m

/-- The guards forgotten in a run. -/
def forgottenIn (w : GuardedThread) (moves : List Move) : List Guard :=
  (w.trail moves).filterMap fun (v, m) => v.forgotten? m

/-- The hook calls that the moves of a run are to make, one move after the other. -/
def callsIn (w : GuardedThread) (moves : List Move) : List HookCall :=
  (w.trail moves).flatMap fun (v, m) => v.callsOf m

/-- A move makes the hook calls that it is to make. -/
theorem calls_move (w : GuardedThread) (m : Move) :
    (w.move m).thread.calls = w.thread.calls ++ w.callsOf m := by
  cases m with
  | use sources owner request hook => exact w.thread.use_calls sources owner request hook
  | temporary sources owner overrides =>
    exact (w.thread.temporary_calls sources owner overrides).trans (List.append_nil _).symm
  | drop owner sequence =>
    simp only [callsOf, dropped?, GuardedThread.move]
    cases guardOf? w.guards sequence with
    | none => exact (List.append_nil _).symm
    | some guard => simpa using w.thread.leave_calls owner guard
  | closeScope owner =>
    simp only [GuardedThread.move]
    split <;> exact (List.append_nil _).symm
  | enter | forget | openScope => exact (List.append_nil _).symm

/-- A run makes the hook calls that its moves are to make. -/
theorem calls_run (w : GuardedThread) (moves : List Move) :
    (w.run moves).thread.calls = w.thread.calls ++ w.callsIn moves := by
  induction moves generalizing w with
  | nil => exact (List.append_nil _).symm
  | cons m rest ih =>
    have hrest := ih (w.move m)
    rw [calls_move, List.append_assoc] at hrest
    exact hrest

/-- Among guards of different numbers, the one of a number and the others are all. -/
theorem perm_guardsWithout {guards : List Guard} (hnodup : (guards.map (·.sequence)).Nodup)
    (sequence : ℕ) :
    guards.Perm ((guardOf? guards sequence).toList ++ guardsWithout guards sequence) := by
  unfold guardOf? guardsWithout
  induction guards with
  | nil => rfl
  | cons guard rest ih =>
    obtain ⟨hfresh, hrest⟩ := List.nodup_cons.mp hnodup
    by_cases hguard : guard.sequence = sequence
    · have hothers : rest.filter (·.sequence ≠ sequence) = rest := by
        refine List.filter_eq_self.mpr fun other hother => ?_
        have hne : other.sequence ≠ sequence := fun heq =>
          hfresh (List.mem_map.mpr ⟨other, hother, heq.trans hguard.symm⟩)
        simpa using hne
      rw [List.find?_cons_of_pos (by simpa using hguard),
        List.filter_cons_of_neg (by simpa using hguard), hothers]
      exact List.Perm.refl _
    · rw [List.find?_cons_of_neg (by simpa using hguard),
        List.filter_cons_of_pos (by simpa using hguard)]
      exact ((ih hrest).cons guard).trans List.perm_middle.symm

/-- A guard that is there or given by a move is dropped or forgotten by it, or there afterwards. -/
theorem Sound.guards_move {w : GuardedThread} (h : w.Sound) (m : Move) :
    (w.guards ++ (w.given? m).toList).Perm
      ((w.dropped? m).toList ++ (w.forgotten? m).toList ++ (w.move m).guards) := by
  cases m with
  | use | temporary | enter => exact List.Perm.refl _
  | openScope => exact List.Perm.of_eq (List.append_nil _)
  | closeScope owner =>
    simp only [GuardedThread.move]
    split <;> exact List.Perm.of_eq (List.append_nil _)
  | drop owner sequence =>
    simp only [given?, dropped?, forgotten?, GuardedThread.move, Option.toList_none,
      List.append_nil]
    have hperm := perm_guardsWithout h.nodup_guards sequence
    cases hguard : guardOf? w.guards sequence with
    | none => exact List.Perm.refl _
    | some guard => rwa [hguard] at hperm
  | forget sequence =>
    simp only [given?, dropped?, forgotten?, GuardedThread.move, Option.toList_none,
      List.append_nil, List.nil_append]
    exact perm_guardsWithout h.nodup_guards sequence

/-- A guard that is there or given in a run is dropped or forgotten in it, or there at its end. -/
theorem Sound.guards_run {w : GuardedThread} (h : w.Sound) (moves : List Move) :
    (w.guards ++ w.givenIn moves).Perm
      (w.droppedIn moves ++ w.forgottenIn moves ++ (w.run moves).guards) := by
  unfold givenIn droppedIn forgottenIn
  induction moves generalizing w with
  | nil => exact List.Perm.of_eq (List.append_nil _)
  | cons m rest ih =>
    have hstep := h.guards_move m
    have hrest := ih (h.move m)
    have hrun : w.run (m :: rest) = (w.move m).run rest := rfl
    simp only [trail, filterMap_cons_eq_append, hrun]
    -- The guards of the first move go before those of the rest, so the order changes: count them.
    rw [← Multiset.coe_eq_coe] at hstep hrest ⊢
    simp only [← Multiset.coe_add] at hstep hrest ⊢
    rw [← add_assoc, hstep, add_assoc, hrest]
    abel

/-- An attempt to enter a context gives a guard of the next number and uses that up, or gives none.
-/
theorem attempt_sequence (t : Thread) (owner : Owner) (hook : Option Hook)
    (attempt : Except SettingsError SettingsContext) :
    t.stack.next ≤ (t.stack.attempt owner attempt).next ∧
      ∀ guard ∈ (t.attemptGuard owner hook attempt).toOption,
        t.stack.next ≤ guard.sequence ∧
          guard.sequence < (t.stack.attempt owner attempt).next := by
  cases attempt with
  | error e => exact ⟨le_rfl, by rintro guard ⟨⟩⟩
  | ok context =>
    refine ⟨Nat.le_succ _, ?_⟩
    rintro guard ⟨⟩
    exact ⟨le_rfl, Nat.lt_succ_self _⟩

/-- A guard takes a number not used before, which no later guard takes. -/
theorem given?_sequence (w : GuardedThread) (m : Move) :
    w.thread.stack.next ≤ (w.move m).thread.stack.next ∧
      ∀ guard ∈ w.given? m, w.thread.stack.next ≤ guard.sequence ∧
        guard.sequence < (w.move m).thread.stack.next := by
  cases m with
  | use sources owner request hook =>
    simp only [given?, GuardedThread.move, keep, Thread.use_fst, Thread.use_snd_stack]
    exact attempt_sequence w.thread owner hook _
  | temporary sources owner overrides =>
    simp only [given?, GuardedThread.move, keep, Thread.temporary_fst, Thread.temporary_snd_stack]
    exact attempt_sequence w.thread owner none _
  | enter owner context => exact attempt_sequence w.thread owner none (.ok context)
  | drop owner sequence =>
    refine ⟨?_, by rintro guard ⟨⟩⟩
    simp only [GuardedThread.move]
    split
    · exact le_rfl
    · simp
  | forget sequence => exact ⟨le_rfl, by rintro guard ⟨⟩⟩
  | openScope owner context => exact ⟨Nat.le_succ _, by rintro guard ⟨⟩⟩
  | closeScope owner =>
    refine ⟨?_, by rintro guard ⟨⟩⟩
    simp only [GuardedThread.move]
    split <;> exact le_rfl

/-- The guards given in a run have increasing numbers, none of them used before. -/
theorem givenIn_increasing (w : GuardedThread) (moves : List Move) :
    (w.givenIn moves).Pairwise (·.sequence < ·.sequence) ∧
      ∀ guard ∈ w.givenIn moves, w.thread.stack.next ≤ guard.sequence := by
  unfold givenIn
  induction moves generalizing w with
  | nil => exact ⟨List.Pairwise.nil, by rintro guard ⟨⟩⟩
  | cons m rest ih =>
    obtain ⟨hnext, hgiven⟩ := w.given?_sequence m
    obtain ⟨hrest, hlater⟩ := ih (w.move m)
    simp only [trail, filterMap_cons_eq_append]
    refine ⟨List.pairwise_append.mpr ⟨?_, hrest, ?_⟩, ?_⟩
    · cases w.given? m with
      | none => exact List.Pairwise.nil
      | some guard => exact List.pairwise_singleton _ _
    · intro guard hguard later hmem
      have hlt := (hgiven guard (Option.mem_toList.mp hguard)).2
      have hle := hlater later hmem
      omega
    · intro guard hguard
      rcases List.mem_append.mp hguard with hguard | hguard
      · exact (hgiven guard (Option.mem_toList.mp hguard)).1
      · exact hnext.trans (hlater guard hguard)

/-- A thread on which hooks are called in time: asked before a context is entered, and told after a
frame was left. -/
structure HonoursHooks (w : GuardedThread) : Prop where
  /-- A hook is shown the context that was built while the stack is as it was, and the context is
  entered only if the hook accepts it. -/
  asking : ∀ sources owner request hook context,
    sources.build (w.thread.current owner) request = .ok context →
      ∃ shown : Thread, shown.stack = w.thread.stack ∧
        shown.calls = w.thread.calls ++ [.enter hook.label context] ∧
        w.move (.use sources owner request (some hook)) =
          match hook.onEnter context with
          | .error _ => ⟨shown, w.guards⟩
          | .ok _ =>
            let entered := (shown.report [.profileInUse]).enter owner context (some hook)
            ⟨entered.2, w.guards ++ [entered.1]⟩
  /-- If the context cannot be built or the hook refuses it, the error is passed on, there is no
  guard, and everyone sees what it saw. -/
  refusing : ∀ sources owner request hook e,
    (sources.build (w.thread.current owner) request = .error e ∨
      ∃ context asked, sources.build (w.thread.current owner) request = .ok context ∧
        hook = some asked ∧ asked.onEnter context = .error e) →
      (w.thread.use sources owner request hook).1 = .error e ∧
        (w.move (.use sources owner request hook)).guards = w.guards ∧
        (w.move (.use sources owner request hook)).thread.stack = w.thread.stack ∧
        ∀ other, (w.move (.use sources owner request hook)).thread.current other =
          w.thread.current other
  /-- The hook of a dropped guard is told what the dropping owner sees with the frame left, and that
  is also what it sees afterwards. -/
  telling : ∀ owner, ∀ guard ∈ w.guards, ∀ hook, guard.hook = some hook →
    ∃ left : Thread, left.stack = w.thread.stack.leave guard.sequence guard.owner ∧
      left.calls = w.thread.calls ∧
      w.move (.drop owner guard.sequence) =
        ⟨left.told owner hook, guardsWithout w.guards guard.sequence⟩ ∧
      (w.move (.drop owner guard.sequence)).thread.current owner = left.current owner
  /-- It is told so also if the frame had gone before, and then the stack stays as it is. -/
  telling_gone : ∀ owner, ∀ guard ∈ w.guards, ∀ hook, guard.hook = some hook →
    (∀ f ∈ w.thread.stack.frames, f.sequence ≠ guard.sequence) →
      (w.move (.drop owner guard.sequence)).thread.stack = w.thread.stack ∧
        (w.move (.drop owner guard.sequence)).thread.calls =
          w.thread.calls ++ [.exit hook.label (w.thread.current owner).toOption]

/-- A move that drops a guard leaves its frame and tells its hook. -/
theorem Sound.move_drop {w : GuardedThread} (h : w.Sound) (owner : Owner) {guard : Guard}
    (hguard : guard ∈ w.guards) :
    w.move (.drop owner guard.sequence) =
      ⟨w.thread.leave owner guard, guardsWithout w.guards guard.sequence⟩ := by
  have hfound : guardOf? w.guards guard.sequence = some guard :=
    (guardOf?_eq_some_iff h.nodup_guards).mpr ⟨hguard, rfl⟩
  simp only [GuardedThread.move, hfound]

/-- On a sound thread hooks are called in time. -/
theorem Sound.honoursHooks {w : GuardedThread} (h : w.Sound) : w.HonoursHooks where
  asking := by
    intro sources owner request hook context hbuild
    refine ⟨w.thread.shown sources owner request (some hook) context, by simp, by simp, ?_⟩
    simp only [GuardedThread.move]
    cases hanswer : hook.onEnter context with
    | error e =>
      have hrefused : sources.admitted (w.thread.current owner) request (some hook) = .error e :=
        Sources.admitted_eq_error_iff.mpr (Or.inr ⟨context, hook, hbuild, rfl, hanswer⟩)
      rw [Thread.use_of_refused hbuild hrefused]
      exact congrArg (GuardedThread.mk _) (List.append_nil w.guards)
    | ok level =>
      have hadmitted : sources.admitted (w.thread.current owner) request (some hook) =
          .ok context :=
        Sources.admitted_eq_ok_iff.mpr ⟨hbuild, by rintro asked ⟨⟩; exact ⟨level, hanswer⟩⟩
      rw [Thread.use_of_admitted hadmitted]
      rfl
  refusing := by
    intro sources owner request hook e hfails
    have hrefused := Sources.admitted_eq_error_iff.mpr hfails
    have hnone : (w.thread.use sources owner request hook).1 = .error e := by
      rw [Thread.use_fst, hrefused]
      rfl
    have hstack : (w.move (.use sources owner request hook)).thread.stack = w.thread.stack := by
      simp only [GuardedThread.move, GuardedThread.keep, Thread.use_snd_stack, hrefused]
      rfl
    refine ⟨hnone, ?_, hstack, fun other => congrArg (ContextStack.current · other) hstack⟩
    simp only [GuardedThread.move, GuardedThread.keep, hnone]
    exact List.append_nil w.guards
  telling := by
    intro owner guard hguard hook hhook
    refine ⟨w.thread.left guard, rfl, rfl, ?_, ?_⟩
    · rw [h.move_drop owner hguard, Thread.leave_eq, hhook]
      rfl
    · rw [h.move_drop owner hguard, Thread.leave_current]
  telling_gone := by
    intro owner guard hguard hook hhook hgone
    have hstack : (w.thread.leave owner guard).stack = w.thread.stack := by
      rw [Thread.leave_stack]
      refine ContextStack.leave_of_gone ?_
      rintro ⟨f, hf, heq⟩
      exact hgone f hf heq
    have hsees : (w.thread.leave owner guard).current owner = w.thread.current owner :=
      congrArg (ContextStack.current · owner) hstack
    rw [h.move_drop owner hguard]
    refine ⟨hstack, ?_⟩
    rw [Thread.leave_calls, hhook, hsees]
    rfl

/-- Whatever moves tasks and the code outside tasks make on a thread, and in whatever order: the
hook calls are those that the moves are to make, each in its turn; every guard given has a number of
its own and is dropped, forgotten or still there, and only one of these; hooks are called in time;
and a hook that fails when it is told makes no difference but the warning. -/
theorem hooks_balanced (filter : LevelFilter) (moves : List Move) :
    ((start filter).run moves).thread.calls = (start filter).callsIn moves ∧
      ((start filter).givenIn moves).Perm
        ((start filter).droppedIn moves ++ (start filter).forgottenIn moves ++
          ((start filter).run moves).guards) ∧
      ((start filter).givenIn moves).Pairwise (·.sequence < ·.sequence) ∧
      ((start filter).run moves).HonoursHooks ∧
      ((start filter).run moves).quiet = (start filter).run (moves.map Move.quiet) := by
  refine ⟨?_, ?_, ?_, ?_, ?_⟩
  · exact (calls_run _ moves).trans (List.nil_append _)
  · exact (Sound.start filter).guards_run moves
  · exact (givenIn_increasing _ moves).1
  · exact ((Sound.start filter).run moves).honoursHooks
  · exact quiet_run _ moves

end LayeredSettings.GuardedThread
