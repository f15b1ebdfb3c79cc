import LayeredSettings.Context.Thread

/-!
# What work on a thread does to the stack

Reports, hooks and the journal leave the stack alone. An attempt to enter a context either gives a
guard of the next number and puts the context on the stack, or fails and leaves the stack as it was;
dropping guards takes frames off it.
-/

namespace LayeredSettings

/-- The context that a request enters, unless building it fails or the hook calls it off. -/
def Sources.admitted (sources : Sources) (seen : Except SettingsError SettingsContext)
    (request : Request) (hook : Option Hook) : Except SettingsError SettingsContext := do
  let context ← sources.build seen request
  match hook with
  | none => return context
  | some hook =>
    let _ ← hook.onEnter context
    return context

namespace ContextStack

/-- The stack after an attempt to enter a context. -/
def attempt (s : ContextStack) (owner : Owner) :
    Except SettingsError SettingsContext → ContextStack
  | .ok context => s.enter owner context
  | .error _ => s

/-- The stack after several guards are dropped, the last first. -/
def leaveAll (s : ContextStack) (guards : List Guard) : ContextStack :=
  guards.reverse.foldl (fun s guard => s.leave guard.sequence guard.owner) s

end ContextStack

namespace Thread

/-- The guard that an attempt to enter a context gives. -/
def attemptGuard (t : Thread) (owner : Owner) (hook : Option Hook)
    (attempt : Except SettingsError SettingsContext) : Except SettingsError Guard :=
  attempt.map fun context => ⟨t.stack.next, owner, context, hook⟩

/-- Reports change nothing that an owner sees. -/
@[simp] theorem report_current (t : Thread) (events : List Event) (owner : Owner) :
    (t.report events).current owner = t.current owner := rfl

/-- Using a profile gives a guard exactly if the request is admitted. -/
theorem use_fst (t : Thread) (sources : Sources) (owner : Owner) (request : Request)
    (hook : Option Hook) :
    (t.use sources owner request hook).1 =
      t.attemptGuard owner hook (sources.admitted (t.current owner) request hook) := by
  unfold use Sources.admitted attemptGuard
  simp only [report_current]
  cases sources.build (t.current owner) request with
  | error e => rfl
  | ok context =>
    cases hook with
    | none => rfl
    | some hook =>
      cases hanswer : hook.onEnter context with
      | error e =>
        simp only [hanswer, bind, Except.bind]
        rfl
      | ok level =>
        simp only [hanswer, bind, Except.bind]
        rfl

/-- Using a profile puts a context on the stack exactly if the request is admitted. -/
theorem use_snd_stack (t : Thread) (sources : Sources) (owner : Owner) (request : Request)
    (hook : Option Hook) :
    (t.use sources owner request hook).2.stack =
      t.stack.attempt owner (sources.admitted (t.current owner) request hook) := by
  unfold use Sources.admitted
  simp only [report_current]
  cases sources.build (t.current owner) request with
  | error e => rfl
  | ok context =>
    cases hook with
    | none => rfl
    | some hook =>
      cases hanswer : hook.onEnter context with
      | error e =>
        simp only [hanswer, bind, Except.bind]
        rfl
      | ok level =>
        simp only [hanswer, bind, Except.bind]
        rfl

/-- Temporary settings give a guard exactly if they can be built. -/
theorem temporary_fst (t : Thread) (sources : Sources) (owner : Owner) (overrides : Overrides) :
    (t.temporary sources owner overrides).1 =
      t.attemptGuard owner none (sources.temporary (t.current owner) overrides) := by
  unfold temporary attemptGuard
  simp only [report_current]
  cases sources.temporary (t.current owner) overrides <;> rfl

/-- Temporary settings put a context on the stack exactly if they can be built. -/
theorem temporary_snd_stack (t : Thread) (sources : Sources) (owner : Owner)
    (overrides : Overrides) :
    (t.temporary sources owner overrides).2.stack =
      t.stack.attempt owner (sources.temporary (t.current owner) overrides) := by
  unfold temporary
  simp only [report_current]
  cases sources.temporary (t.current owner) overrides <;> rfl

/-- Dropping a guard leaves its frame, whoever drops it and whatever its hook says. -/
@[simp] theorem leave_stack (t : Thread) (owner : Owner) (guard : Guard) :
    (t.leave owner guard).stack = t.stack.leave guard.sequence guard.owner := by
  unfold leave
  cases guard.hook with
  | none => rfl
  | some hook =>
    dsimp only
    split <;> rfl

/-- Dropping several guards leaves their frames, that of the last guard first. -/
@[simp] theorem leaveAll_stack (t : Thread) (owner : Owner) (guards : List Guard) :
    (t.leaveAll owner guards).stack = t.stack.leaveAll guards := by
  unfold leaveAll ContextStack.leaveAll
  induction guards.reverse generalizing t with
  | nil => rfl
  | cons guard rest ih =>
    rw [List.foldl_cons, List.foldl_cons, ih, leave_stack]

end Thread

end LayeredSettings
