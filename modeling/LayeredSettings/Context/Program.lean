import LayeredSettings.Context.Thread

/-!
# Programs that use contexts

A program is a list of steps. Steps enter and leave contexts, look at the current one, open scopes
around further steps, run steps that end in a panic, and spawn tasks that run steps of their own and
take turns.
-/

namespace LayeredSettings

/-- A context to be resolved from the sources without a profile of its own choice, under a label. -/
structure FrameRequest where
  label : Option String
  overrides : Overrides

/-- The context that a frame request asks for. -/
def Sources.frame (sources : Sources) (request : FrameRequest) :
    Except SettingsError SettingsContext :=
  return ⟨← resolve sources.registry sources.env sources.profiles none request.overrides,
    request.label⟩

/-- What resolving a frame request reports. -/
def Sources.frameEvents (sources : Sources) (request : FrameRequest) : List Event :=
  resolveEvents sources.registry sources.env sources.profiles none request.overrides

/-- One step of a program. Guards are kept under the names given by `keep`. -/
inductive Step where
  | use (request : Request) (hook : Option Hook) (keep : String)
  | temporary (overrides : Overrides) (keep : String)
  | enter (frame : FrameRequest) (keep : String)
  | build (request : Request)
  | drop (guard : String)
  | forget (guard : String)
  | look
  | levelName (base : String)
  | same (frame : FrameRequest)
  | scope (frame : FrameRequest) (steps : List Step)
  | panic (steps : List Step)
  | spawn (tasks : List (List Step))
  | yield

instance : Inhabited Step := ⟨.look⟩

/-- The kind of a step. -/
inductive Verb where
  | use
  | temporary
  | enter
  | build
  | drop
  | forget
  | look
  | levelName
  | same
  | scope
  | panic
  | spawn
  | yield
  deriving DecidableEq

/-- The kind of a step. -/
def Step.verb : Step → Verb
  | use .. => .use
  | temporary .. => .temporary
  | enter .. => .enter
  | build .. => .build
  | drop _ => .drop
  | forget _ => .forget
  | look => .look
  | levelName _ => .levelName
  | same _ => .same
  | scope .. => .scope
  | panic _ => .panic
  | spawn _ => .spawn
  | yield => .yield

mutual

/-- A bound for the number of moves that a step takes. -/
def Step.moves : Step → Nat
  | .scope _ steps => Step.movesOfAll steps + 4
  | .panic steps => Step.movesOfAll steps + 4
  | .spawn tasks => Step.movesOfTasks tasks + 4
  | _ => 4

/-- A bound for the number of moves that several steps take. -/
def Step.movesOfAll : List Step → Nat
  | [] => 0
  | step :: rest => step.moves + Step.movesOfAll rest

/-- A bound for the number of moves that several tasks take. -/
def Step.movesOfTasks : List (List Step) → Nat
  | [] => 0
  | steps :: rest => Step.movesOfAll steps + 4 + Step.movesOfTasks rest

end

/-- What a step comes to. -/
inductive Outcome where
  | nothing
  | context (c : SettingsContext)
  | built (c : SettingsContext) (inherit : Bool)
  | settings (s : Settings)
  | text (s : String)
  | truth (b : Bool)
  | failed (e : SettingsError)
  deriving DecidableEq

/-- The outcome of something that may fail. -/
def Outcome.of {α : Type} (f : α → Outcome) : Except SettingsError α → Outcome
  | .ok x => f x
  | .error e => .failed e

/-- A step that has come to an end: where it stands in the program, its kind, its outcome, what its
owner sees afterwards, and the log filter then in force. -/
structure Record where
  place : List Nat
  verb : Verb
  outcome : Outcome
  seen : Except SettingsError SettingsContext
  filter : LevelFilter

/-- Guards under the names they are kept by, the oldest first. -/
abbrev Guards := List (String × Guard)

namespace Guards

/-- The oldest guard kept under a name, and the others. -/
def take? (name : String) : Guards → Option (Guard × Guards)
  | [] => none
  | (kept, guard) :: rest =>
    if kept = name then some (guard, rest)
    else (take? name rest).map fun (found, others) => (found, (kept, guard) :: others)

end Guards

/-- A step done on a thread: what it comes to, the thread after it, and the guards then kept. -/
structure Done where
  outcome : Outcome
  thread : Thread
  guards : Guards

/-- A step that entered a context, or failed to; a guard is kept under a name. -/
def Done.entered (keep : String) (guards : Guards) (result : Except SettingsError Guard × Thread) :
    Done :=
  match result with
  | (.ok guard, t) => ⟨.context guard.context, t, guards ++ [(keep, guard)]⟩
  | (.error e, t) => ⟨.failed e, t, guards⟩

/-- A step that has no further steps inside, done by an owner. -/
def Step.perform (sources : Sources) (owner : Owner) (guards : Guards) (t : Thread) : Step → Done
  | .use request hook keep => Done.entered keep guards (t.use sources owner request hook)
  | .temporary overrides keep => Done.entered keep guards (t.temporary sources owner overrides)
  | .enter frame keep =>
    let t := t.report (sources.frameEvents frame)
    match sources.frame frame with
    | .error e => ⟨.failed e, t, guards⟩
    | .ok context =>
      let (guard, t) := t.enter owner context none
      ⟨.context context, t, guards ++ [(keep, guard)]⟩
  | .build request =>
    let result := sources.build (t.current owner) request
    ⟨Outcome.of (.built · request.inherit) result,
      t.report (sources.buildEvents (t.current owner) request), guards⟩
  | .drop name =>
    match guards.take? name with
    | none => ⟨.nothing, t, guards⟩
    | some (guard, others) => ⟨.nothing, t.leave owner guard, others⟩
  | .forget name =>
    ⟨.nothing, t, ((guards.take? name).map (·.2)).getD guards⟩
  | .look => ⟨Outcome.of (.settings ·.settings) (t.current owner), t, guards⟩
  | .levelName base => ⟨Outcome.of (.text <| ·.levelName base) (t.current owner), t, guards⟩
  | .same frame =>
    match t.current owner with
    | .error e => ⟨.failed e, t, guards⟩
    | .ok current =>
      let same := do return (← sources.frame frame).same current
      ⟨Outcome.of .truth same, t.report (sources.frameEvents frame), guards⟩
  | _ => ⟨.nothing, t, guards⟩

end LayeredSettings
