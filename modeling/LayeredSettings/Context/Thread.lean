import LayeredSettings.Context.Hook

/-!
# A thread at work

What work on one thread changes: the context stack, the journal with the filter in force, and which
hooks have been called so far. Entering and leaving contexts are the only ways to change the
stack.
-/

namespace LayeredSettings

/-- The state of a thread. -/
structure Thread where
  stack : ContextStack
  journal : Journal
  calls : List HookCall
  deriving DecidableEq

namespace Thread

/-- A thread on which nothing has happened. -/
def start (filter : LevelFilter) : Thread := ⟨.empty, .empty filter, []⟩

/-- The thread with some events reported. -/
def report (t : Thread) (events : List Event) : Thread :=
  { t with journal := t.journal.report events }

/-- The thread with a hook call noted, and the level set that the call asks for. -/
def called (t : Thread) (call : HookCall) (answer : Except SettingsError (Option Level)) : Thread :=
  { t with
    calls := t.calls ++ [call]
    journal :=
      match answer with
      | .ok (some level) => t.journal.withFilter (some level)
      | _ => t.journal }

/-- The context that an owner sees. -/
def current (t : Thread) (owner : Owner) : Except SettingsError SettingsContext :=
  t.stack.current owner

/-- Enters a context for an owner, and gives the right to leave it. -/
def enter (t : Thread) (owner : Owner) (context : SettingsContext) (hook : Option Hook) :
    Guard × Thread :=
  (⟨t.stack.next, owner, context, hook⟩,
    { t with stack := t.stack.enter owner context }.report [.contextEntered])

/-- Builds a context and enters it, unless building fails or the hook calls it off. -/
def use (t : Thread) (sources : Sources) (owner : Owner) (request : Request) (hook : Option Hook) :
    Except SettingsError Guard × Thread :=
  let t := t.report (sources.buildEvents (t.current owner) request)
  match sources.build (t.current owner) request with
  | .error e => (.error e, t)
  | .ok context =>
    match hook with
    | none =>
      let (guard, t) := (t.report [.profileInUse]).enter owner context none
      (.ok guard, t)
    | some hook =>
      let answer := hook.onEnter context
      let t := t.called (.enter hook.label context) answer
      match answer with
      | .error e => (.error e, t)
      | .ok _ =>
        let (guard, t) := (t.report [.profileInUse]).enter owner context (some hook)
        (.ok guard, t)

/-- Enters the current context with overrides on top. -/
def temporary (t : Thread) (sources : Sources) (owner : Owner) (overrides : Overrides) :
    Except SettingsError Guard × Thread :=
  let t := t.report (sources.temporaryEvents (t.current owner) overrides)
  match sources.temporary (t.current owner) overrides with
  | .error e => (.error e, t)
  | .ok context =>
    let (guard, t) := t.enter owner context none
    (.ok guard, t)

/-- Leaves the frame of a guard and calls its hook with what `owner` then sees. -/
def leave (t : Thread) (owner : Owner) (guard : Guard) : Thread :=
  let t := { t with stack := t.stack.leave guard.sequence guard.owner }.report [.contextExited]
  match guard.hook with
  | none => t
  | some hook =>
    let seen := (t.current owner).toOption
    let answer := hook.onExit seen
    let t := t.called (.exit hook.label seen) answer
    match answer with
    | .error e => t.report [.exitHookFailed e]
    | .ok _ => t

/-- Leaves the frames of several guards, the last first. -/
def leaveAll (t : Thread) (owner : Owner) (guards : List Guard) : Thread :=
  guards.reverse.foldl (fun t guard => t.leave owner guard) t

end Thread

end LayeredSettings
