import LayeredSettings.Proofs.Context.ThreadStack

/-!
# When hooks are called

A hook is asked about a context after it was built and before it is entered, so that a refusal
leaves nothing to undo; and it is told what is seen after a frame was left, so that a failure comes
too late to change anything. This splits the work of using a profile and of dropping a guard at the
hook calls, and follows the stack, the calls and the reports from one part to the next.
-/

namespace LayeredSettings

/-- A report that a hook failed when its frame was left. -/
def Event.isExitFailure : Event → Bool
  | exitHookFailed _ => true
  | _ => false

/-- To look up keys is no hook call. -/
theorem Registry.isExitFailure_of_mem_lookupAllEvents {r : Registry} {keys : List String}
    {event : Event} (h : event ∈ r.lookupAllEvents keys) : event.isExitFailure = false := by
  obtain ⟨key, -, hevent⟩ := List.mem_flatMap.mp h
  unfold lookupEvents at hevent
  split at hevent
  · split at hevent
    · cases hevent
    · rw [List.mem_singleton.mp hevent]
      rfl
  · cases hevent

/-- To read a profile is no hook call. -/
theorem Profile.isExitFailure_of_mem_effectiveEvents {r : Registry} {p : Profile} {event : Event}
    (h : event ∈ p.effectiveEvents r) : event.isExitFailure = false := by
  obtain ⟨key, -, hevent⟩ := List.mem_flatMap.mp h
  unfold entryEvents at hevent
  split at hevent
  · split at hevent
    · cases hevent
    · rw [List.mem_singleton.mp hevent]
      rfl
  · rw [List.mem_singleton.mp hevent]
    rfl

/-- To resolve settings is no hook call. -/
theorem isExitFailure_of_mem_resolveEvents {r : Registry} {env : Environment} {c : Collection}
    {profile : Option String} {overrides : Overrides} {event : Event}
    (h : event ∈ resolveEvents r env c profile overrides) : event.isExitFailure = false := by
  unfold resolveEvents at h
  cases hchosen : chosenProfile c profile with
  | error e =>
    rw [hchosen] at h
    cases h
  | ok chosen =>
    simp only [hchosen, List.mem_append] at h
    rcases h with h | h
    · exact Registry.isExitFailure_of_mem_lookupAllEvents h
    · split at h
      · rcases List.mem_append.mp h with h | h
        · cases chosen with
          | none => cases h
          | some p => exact Profile.isExitFailure_of_mem_effectiveEvents h
        · split at h
          · rw [List.mem_singleton.mp h]
            rfl
          · cases h
      · cases h

/-- To build a context is no hook call. -/
theorem Sources.isExitFailure_of_mem_buildEvents {sources : Sources}
    {parent : Except SettingsError SettingsContext} {request : Request} {event : Event}
    (h : event ∈ sources.buildEvents parent request) : event.isExitFailure = false := by
  unfold buildEvents at h
  split at h
  · split at h
    · cases h
    · split at h
      · split at h
        · cases h
        · rcases List.mem_append.mp h with h | h
          · exact Profile.isExitFailure_of_mem_effectiveEvents h
          · split at h
            · exact Registry.isExitFailure_of_mem_lookupAllEvents h
            · cases h
      · exact Registry.isExitFailure_of_mem_lookupAllEvents h
  · exact isExitFailure_of_mem_resolveEvents h

/-- To put overrides on a context is no hook call. -/
theorem Sources.isExitFailure_of_mem_temporaryEvents {sources : Sources}
    {parent : Except SettingsError SettingsContext} {overrides : Overrides} {event : Event}
    (h : event ∈ sources.temporaryEvents parent overrides) : event.isExitFailure = false := by
  unfold temporaryEvents at h
  split at h
  · cases h
  · exact Registry.isExitFailure_of_mem_lookupAllEvents h

/-- A request is turned down exactly if its context cannot be built or the hook refuses it. -/
theorem Sources.admitted_eq_error_iff {sources : Sources}
    {seen : Except SettingsError SettingsContext} {request : Request} {hook : Option Hook}
    {e : SettingsError} :
    sources.admitted seen request hook = .error e ↔
      sources.build seen request = .error e ∨
        ∃ context asked, sources.build seen request = .ok context ∧ hook = some asked ∧
          asked.onEnter context = .error e := by
  unfold admitted
  cases sources.build seen request with
  | error e' => simp [bind, Except.bind]
  | ok context =>
    cases hook with
    | none => simp [bind, Except.bind, pure, Except.pure]
    | some asked =>
      cases hanswer : asked.onEnter context <;>
        simp [bind, Except.bind, pure, Except.pure, hanswer]

/-- A request is granted exactly if its context can be built and the hook, if any, accepts it. -/
theorem Sources.admitted_eq_ok_iff {sources : Sources}
    {seen : Except SettingsError SettingsContext} {request : Request} {hook : Option Hook}
    {context : SettingsContext} :
    sources.admitted seen request hook = .ok context ↔
      sources.build seen request = .ok context ∧
        ∀ asked ∈ hook, ∃ level, asked.onEnter context = .ok level := by
  unfold admitted
  cases hbuild : sources.build seen request with
  | error e => simp [bind, Except.bind]
  | ok built =>
    cases hook with
    | none => simp [bind, Except.bind, pure, Except.pure]
    | some asked =>
      cases hanswer : asked.onEnter built with
      | error e =>
        simp only [bind, Except.bind, hanswer, reduceCtorEq, Except.ok.injEq, Option.mem_some_iff,
          forall_eq', false_iff, not_and, not_exists]
        rintro rfl level
        simp [hanswer]
      | ok level =>
        simp only [bind, Except.bind, hanswer, pure, Except.pure, Except.ok.injEq,
          Option.mem_some_iff, forall_eq', iff_self_and]
        rintro rfl
        exact ⟨level, hanswer⟩

namespace Thread

variable (t : Thread) (sources : Sources) (owner : Owner) (request : Request)

/-- The thread once a context was built for a request and shown to the hook, if there is one. -/
def shown (hook : Option Hook) (context : SettingsContext) : Thread :=
  let built := t.report (sources.buildEvents (t.current owner) request)
  match hook with
  | none => built
  | some hook => built.called (.enter hook.label context) (hook.onEnter context)

/-- The thread once a guard's frame was left, and before its hook is told. -/
def left (guard : Guard) : Thread :=
  { t with stack := t.stack.leave guard.sequence guard.owner }.report [.contextExited]

/-- The thread once a hook was told what an owner sees. -/
def told (hook : Hook) : Thread :=
  let seen := (t.current owner).toOption
  let answer := hook.onExit seen
  let t := t.called (.exit hook.label seen) answer
  match answer with
  | .error e => t.report [.exitHookFailed e]
  | .ok _ => t

/-- A context that is shown to a hook is on nobody's stack. -/
@[simp] theorem shown_stack (hook : Option Hook) (context : SettingsContext) :
    (t.shown sources owner request hook context).stack = t.stack := by
  cases hook <;> rfl

/-- A context is shown to its hook and to no other. -/
@[simp] theorem shown_calls (hook : Option Hook) (context : SettingsContext) :
    (t.shown sources owner request hook context).calls =
      t.calls ++ hook.toList.map fun asked => .enter asked.label context := by
  cases hook with
  | none => exact (List.append_nil t.calls).symm
  | some hook => rfl

/-- To show a context to a hook reports what building it did. -/
@[simp] theorem shown_reported (hook : Option Hook) (context : SettingsContext) :
    (t.shown sources owner request hook context).journal.reported =
      t.journal.reported ++ sources.buildEvents (t.current owner) request := by
  cases hook with
  | none => rfl
  | some hook =>
    unfold shown called
    dsimp only
    split <;> rfl

/-- What a hook is told leaves the stack alone. -/
@[simp] theorem told_stack (hook : Hook) : (t.told owner hook).stack = t.stack := by
  unfold told
  dsimp only
  split <;> rfl

/-- A hook is told once, of the context that its owner sees. -/
@[simp] theorem told_calls (hook : Hook) :
    (t.told owner hook).calls = t.calls ++ [.exit hook.label (t.current owner).toOption] := by
  unfold told
  dsimp only
  split <;> rfl

variable {t sources owner request}

/-- A context that cannot be built is shown to no hook. -/
theorem use_of_build_error {hook : Option Hook} {e : SettingsError}
    (hbuild : sources.build (t.current owner) request = .error e) :
    t.use sources owner request hook =
      (.error e, t.report (sources.buildEvents (t.current owner) request)) := by
  unfold use
  simp only [report_current, hbuild]

/-- A context that its hook refuses is not entered. -/
theorem use_of_refused {hook : Option Hook} {context : SettingsContext} {e : SettingsError}
    (hbuild : sources.build (t.current owner) request = .ok context)
    (hrefused : sources.admitted (t.current owner) request hook = .error e) :
    t.use sources owner request hook =
      (.error e, t.shown sources owner request hook context) := by
  rcases Sources.admitted_eq_error_iff.mp hrefused with h | ⟨built, asked, h, rfl, hanswer⟩
  · rw [hbuild] at h
    cases h
  · obtain rfl : context = built := Except.ok.inj (hbuild.symm.trans h)
    unfold use shown
    simp only [report_current, hbuild, hanswer]

/-- A context that its hook accepts is entered after it was shown. -/
theorem use_of_admitted {hook : Option Hook} {context : SettingsContext}
    (hadmitted : sources.admitted (t.current owner) request hook = .ok context) :
    t.use sources owner request hook =
      (.ok ⟨t.stack.next, owner, context, hook⟩,
        (((t.shown sources owner request hook context).report [.profileInUse]).enter owner context
          hook).2) := by
  obtain ⟨hbuild, haccepts⟩ := Sources.admitted_eq_ok_iff.mp hadmitted
  unfold use shown
  cases hook with
  | none =>
    simp only [report_current, hbuild]
    rfl
  | some asked =>
    obtain ⟨level, hanswer⟩ := haccepts asked rfl
    simp only [report_current, hbuild, hanswer]
    rfl

/-- A hook is told after the frame was left. -/
theorem leave_eq (t : Thread) (owner : Owner) (guard : Guard) :
    t.leave owner guard = guard.hook.elim (t.left guard) ((t.left guard).told owner) := by
  unfold leave
  cases guard.hook <;> rfl

/-- What an owner sees once a guard was dropped is what it sees with the frame left. -/
theorem leave_current (t : Thread) (owner other : Owner) (guard : Guard) :
    (t.leave owner guard).current other = (t.left guard).current other :=
  congrArg (ContextStack.current · other) (t.leave_stack owner guard)

/-- Dropping a guard calls its hook once, and no other. -/
theorem leave_calls (t : Thread) (owner : Owner) (guard : Guard) :
    (t.leave owner guard).calls =
      t.calls ++ guard.hook.toList.map fun hook =>
        .exit hook.label ((t.leave owner guard).current owner).toOption := by
  rw [leave_current, leave_eq]
  cases guard.hook with
  | none => exact (List.append_nil t.calls).symm
  | some hook => exact told_calls _ owner hook

/-- Using a profile shows the built context to the hook once, if both are there. -/
theorem use_calls (t : Thread) (sources : Sources) (owner : Owner) (request : Request)
    (hook : Option Hook) :
    (t.use sources owner request hook).2.calls =
      t.calls ++ hook.toList.flatMap fun asked =>
        (sources.build (t.current owner) request).toOption.toList.map (.enter asked.label) := by
  cases hbuild : sources.build (t.current owner) request with
  | error e =>
    rw [use_of_build_error hbuild]
    cases hook <;> exact (List.append_nil t.calls).symm
  | ok context =>
    have hshown := t.shown_calls sources owner request hook context
    have hcalls : (t.use sources owner request hook).2.calls =
        (t.shown sources owner request hook context).calls := by
      cases hadmitted : sources.admitted (t.current owner) request hook with
      | error e => rw [use_of_refused hbuild hadmitted]
      | ok entered =>
        obtain rfl : context = entered :=
          Except.ok.inj (hbuild.symm.trans (Sources.admitted_eq_ok_iff.mp hadmitted).1)
        rw [use_of_admitted hadmitted]
        rfl
    rw [hcalls, hshown]
    cases hook <;> rfl

/-- Temporary settings call no hook. -/
theorem temporary_calls (t : Thread) (sources : Sources) (owner : Owner) (overrides : Overrides) :
    (t.temporary sources owner overrides).2.calls = t.calls := by
  unfold temporary
  simp only [report_current]
  cases sources.temporary (t.current owner) overrides <;> rfl

end Thread

end LayeredSettings
