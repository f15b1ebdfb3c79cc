import LayeredSettings.Context.Program

/-!
# Taking turns

A program runs in strands: the code outside any task, and tasks. Strands wait in a queue, first in
first out, and the first one runs until it yields, waits for tasks it has spawned, or ends. A strand
that waits is queued again when the first unfinished of its tasks ends. Each list of steps owns the
guards it keeps; when the list ends, those left are dropped, the youngest first.
-/

namespace LayeredSettings

/-- What a list of steps stands in: a strand, a scope of some number, or a step that panics. -/
inductive BlockKind where
  | strand
  | scope (sequence : Nat)
  | panic
  deriving DecidableEq

/-- A list of steps being run: where it stands in the program, the index of the step at its head,
the steps from there on, and the guards it keeps. -/
structure Block where
  kind : BlockKind
  place : List Nat
  index : Nat
  steps : List Step
  guards : Guards

/-- What a strand that does not run waits for: its turn after yielding, or tasks, of which the first
is the one it looks at. -/
inductive Wait where
  | turn
  | tasks (ids : List Nat)

/-- A strand: its owner, the lists of steps it is in, innermost first, and what it waits for. -/
structure Strand where
  owner : Owner
  blocks : List Block
  wait : Option Wait

/-- Something seen from outside: a call of a hook, or the end of a step. -/
inductive Happening where
  | call (c : HookCall)
  | done (r : Record)

/-- The state of a running program. -/
structure Machine where
  thread : Thread
  strands : List Strand
  queue : List Owner
  nextTask : Nat
  history : List Happening

namespace Machine

/-- A program about to run, on a thread with a log filter. -/
def start (filter : LevelFilter) (steps : List Step) : Machine where
  thread := .start filter
  strands := [⟨none, [⟨.strand, [], 0, steps, []⟩], none⟩]
  queue := [none]
  nextTask := 0
  history := []

/-- The machine with a thread after some work; the hook calls made go into the history. -/
def withThread (m : Machine) (t : Thread) : Machine :=
  { m with
    thread := { t with calls := [] }
    history := m.history ++ t.calls.map Happening.call }

/-- The machine with a strand in place of the one of the same owner. -/
def withStrand (m : Machine) (s : Strand) : Machine :=
  { m with strands := m.strands.map fun other => if other.owner = s.owner then s else other }

/-- The strand of an owner, if it has not ended. -/
def strand? (m : Machine) (owner : Owner) : Option Strand := m.strands.find? (·.owner = owner)

/-- The machine with the step at the head of a strand's innermost list ended. -/
def complete (m : Machine) (s : Strand) (outcome : Outcome) : Machine :=
  match s.blocks with
  | [] => m
  | block :: outer =>
    match block.steps with
    | [] => m
    | step :: rest =>
      let record : Record :=
        ⟨block.place ++ [block.index], step.verb, outcome, m.thread.current s.owner,
          m.thread.journal.filter⟩
      let advanced := { block with index := block.index + 1, steps := rest }
      let m := { m with history := m.history ++ [Happening.done record] }
      m.withStrand { s with blocks := advanced :: outer, wait := none }

/-- The machine with a list of steps begun inside the innermost one. -/
def beginBlock (m : Machine) (s : Strand) (block : Block) : Machine :=
  m.withStrand { s with blocks := block :: s.blocks }

/-- The machine with tasks begun and their spawner waiting for them. -/
def spawn (m : Machine) (s : Strand) (place : List Nat) (tasks : List (List Step)) : Machine :=
  let ids := List.range' m.nextTask tasks.length
  let begun := (ids.zip tasks).mapIdx fun i (id, steps) =>
    ({ owner := some id, blocks := [⟨.strand, place ++ [i], 0, steps, []⟩], wait := none } : Strand)
  let m := m.withStrand { s with wait := some (.tasks ids) }
  { m with
    strands := m.strands ++ begun
    queue := m.queue.tail ++ ids.map some
    nextTask := m.nextTask + tasks.length }

/-- The strand looks at a task, which is the first of those it waits for. -/
def Strand.looksAt (s : Strand) (id : Nat) : Bool :=
  match s.wait with
  | some (.tasks (first :: _)) => first = id
  | _ => false

/-- The machine without a strand that has ended; the strand that waits for it is queued. -/
def finish (m : Machine) (s : Strand) : Machine :=
  let left := m.strands.filter (·.owner ≠ s.owner)
  let woken :=
    match s.owner with
    | none => []
    | some id => (left.filter (Strand.looksAt · id)).map (·.owner)
  { m with strands := left, queue := m.queue.tail ++ woken }

/-- One step begun, or done if nothing stands inside it. -/
def runStep (m : Machine) (sources : Sources) (s : Strand) (block : Block) (outer : List Block) :
    Step → Machine
  | .scope frame steps =>
    let m := m.withThread (m.thread.report (sources.frameEvents frame))
    match sources.frame frame with
    | .error e => m.complete s (.failed e)
    | .ok context =>
      let stack := m.thread.stack
      let m := { m with thread := { m.thread with stack := stack.openScope s.owner context } }
      m.beginBlock s ⟨.scope stack.next, block.place ++ [block.index], 0, steps, []⟩
  | .panic steps => m.beginBlock s ⟨.panic, block.place ++ [block.index], 0, steps, []⟩
  | .spawn tasks =>
    if tasks.isEmpty then m.complete s .nothing
    else m.spawn s (block.place ++ [block.index]) tasks
  | .yield =>
    let m := { m with queue := m.queue.tail ++ [s.owner] }
    m.withStrand { s with wait := some .turn }
  | step =>
    let done := step.perform sources s.owner block.guards m.thread
    (m.withThread done.thread).complete
      { s with blocks := { block with guards := done.guards } :: outer } done.outcome

/-- The end of a list of steps: its guards are dropped, and what it stands in ends with it. -/
def endBlock (m : Machine) (s : Strand) (block : Block) (outer : List Block) : Machine :=
  let m := m.withThread (m.thread.leaveAll s.owner (block.guards.map (·.2)))
  let s := { s with blocks := outer }
  match block.kind with
  | .strand => m.withStrand s
  | .scope sequence =>
    let m := { m with thread := { m.thread with stack := m.thread.stack.closeScope sequence } }
    m.complete s .nothing
  | .panic => m.complete s (.truth true)

/-- One move of the strand at the head of the queue. -/
def runStrand (m : Machine) (sources : Sources) (s : Strand) : Machine :=
  match s.wait with
  | some .turn => m.complete s .nothing
  | some (.tasks ids) =>
    match ids.dropWhile fun id => (m.strand? (some id)).isNone with
    | [] => m.complete s .nothing
    | left =>
      let m := { m with queue := m.queue.tail }
      m.withStrand { s with wait := some (.tasks left) }
  | none =>
    match s.blocks with
    | [] => m.finish s
    | block :: outer =>
      match block.steps with
      | [] => m.endBlock s block outer
      | step :: _ => m.runStep sources s block outer step

/-- One move of the machine; nothing once the queue is empty. -/
def move? (m : Machine) (sources : Sources) : Option Machine :=
  match m.queue with
  | [] => none
  | owner :: later =>
    match m.strand? owner with
    | none => some { m with queue := later }
    | some s => some (m.runStrand sources s)

/-- The machine after at most `moves` moves. -/
def run (sources : Sources) : (moves : Nat) → Machine → Machine
  | 0, m => m
  | moves + 1, m =>
    match m.move? sources with
    | none => m
    | some m => run sources moves m

/-- The machine at the end of a program. -/
def finished (sources : Sources) (filter : LevelFilter) (steps : List Step) : Machine :=
  run sources (Step.movesOfAll steps + 4) (start filter steps)

end Machine

end LayeredSettings
