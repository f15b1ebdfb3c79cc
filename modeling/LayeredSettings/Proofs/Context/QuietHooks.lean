import LayeredSettings.Proofs.Context.HookOrder
import LayeredSettings.Proofs.Context.PrivateStacks

/-!
# Hooks that fail too late

A hook is told that its frame was left when that can no longer be helped. If it fails, a warning is
reported and nothing else comes of it. This is stated of two runs: with hooks that keep quiet about
such failures, the same moves lead to the same thread, but for the warnings.
-/

namespace LayeredSettings

/-- The same hook, which succeeds without a wish where it would fail after its frame was left. -/
def Hook.quiet (hook : Hook) : Hook :=
  { hook with
    onExit := fun seen =>
      match hook.onExit seen with
      | .ok level => .ok level
      | .error _ => .ok none }

/-- The same guard with its hook kept quiet. -/
def Guard.quiet (guard : Guard) : Guard := { guard with hook := guard.hook.map Hook.quiet }

/-- The same move with its hook kept quiet. -/
def Move.quiet : Move → Move
  | .use sources owner request hook => .use sources owner request (hook.map Hook.quiet)
  | m => m

/-- The journal without the warnings that hooks failed when their frames were left. -/
def Journal.quiet (j : Journal) : Journal :=
  { j with
    reported := j.reported.filter (!·.isExitFailure)
    written := j.written.filter (!·.isExitFailure) }

/-- The thread with the warnings of failed hooks taken out of its journal. -/
def Thread.quiet (t : Thread) : Thread := { t with journal := t.journal.quiet }

/-- A journal without warnings goes on to report what is no such warning. -/
theorem Journal.quiet_report (j : Journal) {events : List Event}
    (hevents : ∀ event ∈ events, event.isExitFailure = false) :
    (j.report events).quiet = j.quiet.report events := by
  have hreported : events.filter (!·.isExitFailure) = events :=
    List.filter_eq_self.mpr fun event hevent => by simp [hevents event hevent]
  have hwritten : (events.filter (j.filter.admits ·.level)).filter (!·.isExitFailure) =
      events.filter (j.filter.admits ·.level) :=
    List.filter_eq_self.mpr fun event hevent => by
      simp [hevents event (List.mem_of_mem_filter hevent)]
  simp only [quiet, report, List.filter_append, hreported, hwritten]

/-- A warning that a hook failed is taken out. -/
theorem Journal.quiet_report_failure (j : Journal) (cause : SettingsError) :
    (j.report [.exitHookFailed cause]).quiet = j.quiet := by
  have hwritten : ([Event.exitHookFailed cause].filter (j.filter.admits ·.level)).filter
      (!·.isExitFailure) = [] := by
    rw [List.filter_filter]
    rfl
  simp only [quiet, report, List.filter_append, hwritten, List.append_nil]
  exact congrArg (Journal.mk j.filter · _) (List.append_nil _)

namespace Thread

/-- A warning that a hook failed is taken out. -/
theorem quiet_report_failure (t : Thread) (cause : SettingsError) :
    (t.report [.exitHookFailed cause]).quiet = t.quiet := by
  unfold quiet report
  rw [Journal.quiet_report_failure]

/-- A thread without warnings goes on to report what is no such warning. -/
theorem quiet_report (t : Thread) (events : List Event)
    (hevents : ∀ event ∈ events, event.isExitFailure = false) :
    (t.report events).quiet = t.quiet.report events := by
  simp only [quiet, report, Journal.quiet_report _ hevents]

/-- A hook call is noted, and its wish granted, with or without the warnings before it. -/
theorem quiet_called (t : Thread) (call : HookCall)
    (answer : Except SettingsError (Option Level)) :
    (t.called call answer).quiet = t.quiet.called call answer := by
  rcases answer with e | _ | level <;> rfl

/-- A context is entered with or without the warnings before it. -/
theorem quiet_enter (t : Thread) (owner : Owner) (context : SettingsContext)
    (hook hook' : Option Hook) :
    (t.enter owner context hook).2.quiet = (t.quiet.enter owner context hook').2 :=
  quiet_report _ _ (by simp [Event.isExitFailure])

/-- What building a context reports is no warning. -/
theorem quiet_report_build (t : Thread) (sources : Sources) (owner : Owner) (request : Request) :
    (t.report (sources.buildEvents (t.current owner) request)).quiet =
      t.quiet.report (sources.buildEvents (t.current owner) request) :=
  quiet_report t _ fun _ hevent => Sources.isExitFailure_of_mem_buildEvents hevent

/-- A hook kept quiet is asked as before. -/
theorem quiet_shown (t : Thread) (sources : Sources) (owner : Owner) (request : Request)
    (hook : Option Hook) (context : SettingsContext) :
    (t.shown sources owner request hook context).quiet =
      t.quiet.shown sources owner request (hook.map Hook.quiet) context := by
  have hbuilt := t.quiet_report_build sources owner request
  cases hook with
  | none => exact hbuilt
  | some asked =>
    unfold shown
    simp only [Option.map_some, quiet_called, hbuilt]
    rfl

/-- A thread without warnings goes on as before when a profile is used with its hook kept quiet. -/
theorem quiet_use (t : Thread) (sources : Sources) (owner : Owner) (request : Request)
    (hook : Option Hook) :
    t.quiet.use sources owner request (hook.map Hook.quiet) =
      ((t.use sources owner request hook).1.map Guard.quiet,
        (t.use sources owner request hook).2.quiet) := by
  have hsees : t.quiet.current owner = t.current owner := rfl
  -- Quiet hooks differ only once a frame was left, so they grant or turn down the same requests.
  have hadmits : sources.admitted (t.quiet.current owner) request (hook.map Hook.quiet) =
      sources.admitted (t.current owner) request hook := by
    cases hook <;> rfl
  cases hadmitted : sources.admitted (t.current owner) request hook with
  | ok context =>
    have hshown := t.quiet_shown sources owner request hook context
    have hprofile := (t.shown sources owner request hook context).quiet_report [.profileInUse]
      (by simp [Event.isExitFailure])
    rw [use_of_admitted hadmitted, use_of_admitted (hadmits.trans hadmitted),
      quiet_enter _ _ _ _ (hook.map Hook.quiet), hprofile, hshown]
    rfl
  | error e =>
    cases hbuild : sources.build (t.current owner) request with
    | error e' =>
      rw [use_of_build_error hbuild, use_of_build_error (hsees ▸ hbuild), quiet_report_build]
      rfl
    | ok context =>
      rw [use_of_refused hbuild hadmitted,
        use_of_refused (hsees ▸ hbuild) (hadmits.trans hadmitted), quiet_shown]
      rfl

/-- A thread without warnings goes on as before with temporary settings. -/
theorem quiet_temporary (t : Thread) (sources : Sources) (owner : Owner) (overrides : Overrides) :
    t.quiet.temporary sources owner overrides =
      ((t.temporary sources owner overrides).1.map Guard.quiet,
        (t.temporary sources owner overrides).2.quiet) := by
  have hsees : t.quiet.current owner = t.current owner := rfl
  have hreported := t.quiet_report (sources.temporaryEvents (t.current owner) overrides)
    fun event hevent => Sources.isExitFailure_of_mem_temporaryEvents hevent
  unfold temporary
  simp only [report_current, hsees]
  cases sources.temporary (t.current owner) overrides with
  | error e => simp only [hreported, Except.map]
  | ok context =>
    simp only [quiet_enter _ _ _ none none, hreported]
    rfl

/-- A hook kept quiet is told as before, and no warning follows. -/
theorem quiet_told (t : Thread) (owner : Owner) (hook : Hook) :
    (t.told owner hook).quiet = t.quiet.told owner hook.quiet := by
  have hsees : t.quiet.current owner = t.current owner := rfl
  unfold told
  simp only [hsees, Hook.quiet]
  cases hook.onExit (t.current owner).toOption with
  | ok level => exact t.quiet_called _ _
  | error e => exact quiet_report_failure _ e

/-- A thread without warnings goes on as before when a guard is dropped with its hook kept quiet. -/
theorem quiet_leave (t : Thread) (owner : Owner) (guard : Guard) :
    (t.leave owner guard).quiet = t.quiet.leave owner guard.quiet := by
  have hleft : (t.left guard).quiet = t.quiet.left guard.quiet :=
    quiet_report _ _ (by simp [Event.isExitFailure])
  simp only [leave_eq]
  unfold Guard.quiet at hleft ⊢
  cases guard.hook with
  | none => exact hleft
  | some hook => exact ((t.left guard).quiet_told owner hook).trans (by rw [hleft]; rfl)

end Thread

namespace GuardedThread

/-- The thread with the warnings of failed hooks taken out, and its guards' hooks kept quiet. -/
def quiet (w : GuardedThread) : GuardedThread := ⟨w.thread.quiet, w.guards.map Guard.quiet⟩

/-- Guards kept quiet go by the same numbers. -/
theorem guardOf?_quiet (guards : List Guard) (sequence : ℕ) :
    guardOf? (guards.map Guard.quiet) sequence = (guardOf? guards sequence).map Guard.quiet := by
  unfold guardOf?
  rw [List.find?_map]
  rfl

/-- Guards kept quiet are taken away by the same numbers. -/
theorem guardsWithout_quiet (guards : List Guard) (sequence : ℕ) :
    guardsWithout (guards.map Guard.quiet) sequence =
      (guardsWithout guards sequence).map Guard.quiet := by
  unfold guardsWithout
  rw [List.filter_map]
  rfl

/-- To keep the result of an attempt to enter a context is the same with hooks kept quiet. -/
theorem quiet_keep (w : GuardedThread) (result : Except SettingsError Guard × Thread) :
    (w.keep result).quiet = w.quiet.keep (result.1.map Guard.quiet, result.2.quiet) := by
  obtain ⟨e | guard, thread⟩ := result
  · simp [quiet, keep, Except.toOption, Except.map]
  · simp [quiet, keep, Except.toOption, Except.map]

/-- A move with its hook kept quiet does the same, but that no warning follows. -/
theorem quiet_move (w : GuardedThread) (m : Move) :
    (w.move m).quiet = w.quiet.move m.quiet := by
  cases m with
  | use sources owner request hook =>
    simp only [GuardedThread.move, Move.quiet, quiet_keep]
    rw [← Thread.quiet_use]
    rfl
  | temporary sources owner overrides =>
    simp only [GuardedThread.move, Move.quiet, quiet_keep]
    rw [← Thread.quiet_temporary]
    rfl
  | enter owner context =>
    simp only [GuardedThread.move, Move.quiet, quiet_keep]
    rw [Thread.quiet_enter _ _ _ _ none]
    rfl
  | drop owner sequence =>
    have hguard := guardOf?_quiet w.guards sequence
    simp only [GuardedThread.move, Move.quiet, quiet]
    cases hfound : guardOf? w.guards sequence with
    | none =>
      rw [hfound] at hguard
      simp only [hguard, Option.map_none]
    | some guard =>
      rw [hfound] at hguard
      simp only [hguard, Option.map_some, Thread.quiet_leave, guardsWithout_quiet]
  | forget sequence =>
    simp only [GuardedThread.move, Move.quiet, quiet, guardsWithout_quiet]
  | openScope owner context => rfl
  | closeScope owner =>
    have hsees : w.quiet.thread.stack = w.thread.stack := rfl
    simp only [GuardedThread.move, Move.quiet, hsees]
    split <;> rfl

/-- A run with hooks kept quiet does the same, but that no warnings follow. -/
theorem quiet_run (w : GuardedThread) (moves : List Move) :
    (w.run moves).quiet = w.quiet.run (moves.map Move.quiet) := by
  induction moves generalizing w with
  | nil => rfl
  | cons m rest ih =>
    have hrest := ih (w.move m)
    rw [quiet_move] at hrest
    exact hrest

end GuardedThread

end LayeredSettings
