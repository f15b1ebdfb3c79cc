import LayeredSettings.Context.Schedule
import LayeredSettings.Proofs.Context.ThreadStack
import Mathlib.Data.List.Basic

/-!
# Turns in any order

A scheduler settles which strand moves next, and code elsewhere may begin lists of steps at any
time. To leave the order open, a run is a list of turns, each of which begins a list or moves a
strand. The queue of the machine gives one such list. What a turn does to the context stack and to
the lists that an owner is in is one of a few changes.
-/

namespace LayeredSettings

/-- What may happen next on a thread: a list of steps is begun, by the code outside any task or by a
new task, or a strand moves and reads some sources. -/
inductive Turn where
  | outside (steps : List Step)
  | task (steps : List Step)
  | move (owner : Owner) (sources : Sources)

/-- The list of steps in which a strand begins. -/
def Block.ofStrand (place : List Nat) (steps : List Step) : Block := ⟨.strand, place, 0, steps, []⟩

/-- The list of steps after the one at its head, with the guards that it then keeps. -/
def Block.past (block : Block) (guards : Guards) : Block :=
  { block with index := block.index + 1, steps := block.steps.tail, guards := guards }

/-- The lists that a strand is in once what stands inside the innermost has ended. -/
def Block.resume : List Block → List Block
  | [] => []
  | block :: outer => block.past block.guards :: outer

/-- A strand is at the bottom, lists inside others are scopes or steps that panic, and the list
around one is at the step that it is the inside of. -/
def Block.Nested : List Block → Prop
  | [] => True
  | [block] => block.kind = .strand
  | block :: around :: outer =>
    block.kind ≠ .strand ∧ around.steps ≠ [] ∧ Block.Nested (around :: outer)

namespace Machine

/-- A thread on which no list of steps has begun. -/
def idle (filter : LevelFilter) : Machine := ⟨.start filter, [], [], 0, []⟩

/-- The machine with a list of steps begun for an owner, unless one is running for it. -/
def launch (m : Machine) (owner : Owner) (steps : List Step) : Machine :=
  if (m.strand? owner).isSome then m
  else
    { m with
      strands := m.strands ++ [⟨owner, [.ofStrand [] steps], none⟩]
      queue := m.queue ++ [owner] }

/-- The machine after a turn. -/
def turn (m : Machine) : Turn → Machine
  | .outside steps => m.launch none steps
  | .task steps => { m with nextTask := m.nextTask + 1 }.launch (some m.nextTask) steps
  | .move owner sources =>
    match m.strand? owner with
    | none => { m with queue := m.queue.tail }
    | some s => m.runStrand sources s

/-- The machine after some turns. -/
def turns (m : Machine) (ts : List Turn) : Machine := ts.foldl turn m

/-- The lists of steps that an owner is in, innermost first; none once its strand has ended. -/
def blocksOf (m : Machine) (owner : Owner) : List Block :=
  ((m.strand? owner).map (·.blocks)).getD []

/-- A program starts as a list of steps that the code outside any task begins. -/
theorem start_eq (filter : LevelFilter) (steps : List Step) :
    start filter steps = (idle filter).turn (.outside steps) := rfl

/-- A move of the machine is a turn of the strand at the head of the queue. -/
theorem move?_eq_some {m m' : Machine} {sources : Sources} (h : m.move? sources = some m') :
    ∃ owner, m' = m.turn (.move owner sources) := by
  unfold move? at h
  split at h
  · cases h
  · next owner later hqueue =>
    refine ⟨owner, ?_⟩
    cases hs : m.strand? owner with
    | none =>
      simp only [hs, Option.some.injEq] at h
      simp only [turn, hs, hqueue, List.tail_cons, h]
    | some s =>
      simp only [hs, Option.some.injEq] at h
      simp only [turn, hs, h]

/-- The run of a program is one of the runs of turns, in which strands move. -/
theorem run_eq_turns (sources : Sources) (moves : Nat) (m : Machine) :
    ∃ ts, (∀ t ∈ ts, ∃ owner, t = .move owner sources) ∧ run sources moves m = m.turns ts := by
  induction moves generalizing m with
  | zero => exact ⟨[], by simp, rfl⟩
  | succ moves ih =>
    rw [run]
    cases hmove : m.move? sources with
    | none => exact ⟨[], by simp, rfl⟩
    | some m' =>
      obtain ⟨owner, rfl⟩ := move?_eq_some hmove
      obtain ⟨ts, hmoves, hts⟩ := ih (m.turn (.move owner sources))
      exact ⟨.move owner sources :: ts, List.forall_mem_cons.mpr ⟨⟨owner, rfl⟩, hmoves⟩, hts⟩

/-- What a turn may do to the stack of a thread and the lists that the owner is in. -/
inductive Progress (owner : Owner) : ContextStack → List Block → ContextStack → List Block → Prop
  | pause (s : ContextStack) (blocks : List Block) : Progress owner s blocks s blocks
  | pass (s : ContextStack) (block : Block) (outer : List Block) :
      Progress owner s (block :: outer) s (block.past block.guards :: outer)
  | enter (s : ContextStack) (block : Block) (outer : List Block) (context : SettingsContext)
      (keep : String) {guard : Guard} (hsequence : guard.sequence = s.next)
      (howner : guard.owner = owner) :
      Progress owner s (block :: outer) (s.enter owner context)
        (block.past (block.guards ++ [(keep, guard)]) :: outer)
  | drop (s : ContextStack) (block : Block) (outer : List Block) {name : String} {guard : Guard}
      {others : Guards} (htake : block.guards.take? name = some (guard, others)) :
      Progress owner s (block :: outer) (s.leaveAll [guard]) (block.past others :: outer)
  | forget (s : ContextStack) (block : Block) (outer : List Block) {name : String} {guard : Guard}
      {others : Guards} (htake : block.guards.take? name = some (guard, others))
      (hstep : .forget name ∈ block.steps) :
      Progress owner s (block :: outer) s (block.past others :: outer)
  | openScope (s : ContextStack) (block : Block) (outer : List Block) (context : SettingsContext)
      (place : List Nat) {frame : FrameRequest} {steps : List Step}
      (hstep : .scope frame steps ∈ block.steps) :
      Progress owner s (block :: outer) (s.openScope owner context)
        (⟨.scope s.next, place, 0, steps, []⟩ :: block :: outer)
  | beginPanic (s : ContextStack) (block : Block) (outer : List Block) (place : List Nat)
      {steps : List Step} (hstep : .panic steps ∈ block.steps) :
      Progress owner s (block :: outer) s (⟨.panic, place, 0, steps, []⟩ :: block :: outer)
  | endStrand (s : ContextStack) (block : Block) (outer : List Block)
      (hkind : block.kind = .strand) :
      Progress owner s (block :: outer) (s.leaveAll (block.guards.map (·.2))) outer
  | endPanic (s : ContextStack) (block : Block) (outer : List Block) (hkind : block.kind = .panic) :
      Progress owner s (block :: outer) (s.leaveAll (block.guards.map (·.2))) (Block.resume outer)
  | endScope (s : ContextStack) (block : Block) (outer : List Block) {sequence : Nat}
      (hkind : block.kind = .scope sequence) :
      Progress owner s (block :: outer)
        ((s.leaveAll (block.guards.map (·.2))).closeScope sequence) (Block.resume outer)

/-- How a list of steps comes to be begun by a turn: from outside, or by a step that spawns. -/
inductive Begins (m : Machine) : Turn → List Step → Prop
  | outside (steps : List Step) : Begins m (.outside steps) steps
  | task (steps : List Step) : Begins m (.task steps) steps
  | spawned {owner : Owner} {block : Block} {tasks : List (List Step)} {steps : List Step}
      (sources : Sources) (hblock : block ∈ m.blocksOf owner) (hstep : .spawn tasks ∈ block.steps)
      (hsteps : steps ∈ tasks) : Begins m (.move owner sources) steps

/-- What a turn may do: one owner gets on, or lists of steps begin for owners that were in none. -/
inductive Happens (m : Machine) (t : Turn) (m' : Machine) : Prop
  | moved (owner : Owner)
      (hprogress : Progress owner m.thread.stack (m.blocksOf owner) m'.thread.stack
        (m'.blocksOf owner))
      (hothers : ∀ other, other ≠ owner → m'.blocksOf other = m.blocksOf other)
  | begun (hstack : m'.thread.stack = m.thread.stack)
      (hblocks : ∀ owner, m'.blocksOf owner = m.blocksOf owner ∨ m.blocksOf owner = [] ∧
        ∃ place steps, m'.blocksOf owner = [.ofStrand place steps] ∧ m.Begins t steps)

variable {m : Machine} {s s₀ : Strand} {owner : Owner}

/-- A strand that is put in its place is found under its owner, and the others as before. -/
private theorem strand?_withStrand (m : Machine) (s : Strand) (owner : Owner) :
    (m.withStrand s).strand? owner =
      if owner = s.owner then (m.strand? owner).map fun _ => s else m.strand? owner := by
  unfold withStrand strand?
  rw [List.find?_map]
  have hsame : (fun x : Strand => decide (x.owner = owner)) ∘
      (fun other => if other.owner = s.owner then s else other) =
        fun x => decide (x.owner = owner) := by
    funext x
    by_cases hx : x.owner = s.owner <;> simp [hx]
  rw [hsame]
  cases hfind : m.strands.find? fun x => decide (x.owner = owner) with
  | none => simp
  | some x =>
    have hx : x.owner = owner := by simpa using List.find?_some hfind
    by_cases howner : owner = s.owner <;> simp [hx, howner]

/-- Putting a strand in place of its owner's changes the lists that this owner is in. -/
theorem blocksOf_withStrand (hs : m.strand? s.owner = some s₀) (owner : Owner) :
    (m.withStrand s).blocksOf owner = if owner = s.owner then s.blocks else m.blocksOf owner := by
  unfold blocksOf
  rw [strand?_withStrand]
  by_cases howner : owner = s.owner
  · rw [if_pos howner, if_pos howner, howner, hs]
    rfl
  · rw [if_neg howner, if_neg howner]

/-- The lists of an owner are those of its strand. -/
private theorem blocksOf_of_strand? (hs : m.strand? owner = some s) :
    m.blocksOf owner = s.blocks ∧ s.owner = owner := by
  refine ⟨by simp [blocksOf, hs], ?_⟩
  simpa using List.find?_some hs

/-- A strand that only waits for something else stays in the lists it is in. -/
private theorem blocksOf_wait {m' : Machine} (hs : m.strand? owner = some s) (wait : Option Wait)
    (hstrands : m'.strands = m.strands) (other : Owner) :
    (m'.withStrand { s with wait }).blocksOf other = m.blocksOf other := by
  obtain ⟨hheld, rfl⟩ := blocksOf_of_strand? hs
  have hs' : m'.strand? s.owner = some s := by rw [strand?, hstrands, ← strand?, hs]
  rw [blocksOf_withStrand (by exact hs')]
  by_cases hother : other = s.owner
  · rw [if_pos hother, hother, hheld]
  · rw [if_neg hother, blocksOf, strand?, hstrands, ← strand?, ← blocksOf]

/-- Ending a step leaves the thread alone. -/
@[simp] theorem complete_thread (m : Machine) (s : Strand) (outcome : Outcome) :
    (m.complete s outcome).thread = m.thread := by
  unfold complete
  split
  · rfl
  · split <;> rfl

/-- Ending the step at the head of the innermost list goes on to the next one. -/
theorem blocksOf_complete (hs : m.strand? s.owner = some s₀) {block : Block} {outer : List Block}
    (hblocks : s.blocks = block :: outer) (hsteps : block.steps ≠ []) (outcome : Outcome)
    (owner : Owner) :
    (m.complete s outcome).blocksOf owner =
      if owner = s.owner then block.past block.guards :: outer else m.blocksOf owner := by
  obtain ⟨step, rest, hcons⟩ := List.exists_cons_of_ne_nil hsteps
  unfold complete
  rw [hblocks]
  simp only [hcons]
  refine (blocksOf_withStrand (by exact hs) owner).trans ?_
  simp only [Block.past, hcons, List.tail_cons]
  rfl

/-- An attempt to enter a frame is progress, whether or not it gives a guard. -/
private theorem progress_entered (block : Block) (outer : List Block)
    (keep : String) {attempt : Except SettingsError SettingsContext} {hook : Option Hook}
    {t : Thread} {result : Except SettingsError Guard × Thread}
    (hguard : result.1 = t.attemptGuard owner hook attempt)
    (hstack : result.2.stack = t.stack.attempt owner attempt) :
    Progress owner t.stack (block :: outer) (Done.entered keep block.guards result).thread.stack
      (block.past (Done.entered keep block.guards result).guards :: outer) := by
  obtain ⟨guard, after⟩ := result
  cases attempt with
  | error e =>
    obtain rfl : guard = .error e := hguard
    have hafter : after.stack = t.stack := hstack
    simp only [Done.entered, hafter]
    exact .pass t.stack block outer
  | ok context =>
    obtain rfl : guard = .ok ⟨t.stack.next, owner, context, hook⟩ := hguard
    have hafter : after.stack = t.stack.enter owner context := hstack
    simp only [Done.entered, hafter]
    exact .enter t.stack block outer context keep rfl rfl

/-- What a step does that has no further steps inside. -/
theorem progress_perform (owner : Owner) (sources : Sources) (t : Thread) (block : Block)
    (outer : List Block) {step : Step} (hstep : step ∈ block.steps) :
    Progress owner t.stack (block :: outer)
      (step.perform sources owner block.guards t).thread.stack
      (block.past (step.perform sources owner block.guards t).guards :: outer) := by
  cases step with
  | use request hook keep =>
    exact progress_entered block outer keep (t.use_fst sources owner request hook)
      (t.use_snd_stack sources owner request hook)
  | temporary overrides keep =>
    exact progress_entered block outer keep (t.temporary_fst sources owner overrides)
      (t.temporary_snd_stack sources owner overrides)
  | enter frame keep =>
    cases hframe : sources.frame frame with
    | error e =>
      simp only [Step.perform, hframe]
      exact .pass t.stack block outer
    | ok context =>
      simp only [Step.perform, hframe]
      exact .enter t.stack block outer context keep rfl rfl
  | drop name =>
    cases htake : block.guards.take? name with
    | none =>
      simp only [Step.perform, htake]
      exact .pass t.stack block outer
    | some taken =>
      simp only [Step.perform, htake, Thread.leave_stack]
      exact .drop t.stack block outer htake
  | forget name =>
    cases htake : block.guards.take? name with
    | none =>
      simp only [Step.perform, htake]
      exact .pass t.stack block outer
    | some taken =>
      simp only [Step.perform, htake]
      exact .forget t.stack block outer htake hstep
  | same frame =>
    cases hcurrent : t.current owner with
    | error e =>
      simp only [Step.perform, hcurrent]
      exact .pass t.stack block outer
    | ok current =>
      simp only [Step.perform, hcurrent]
      exact .pass t.stack block outer
  | build request => exact .pass t.stack block outer
  | look => exact .pass t.stack block outer
  | levelName base => exact .pass t.stack block outer
  | scope frame steps => exact .pass t.stack block outer
  | panic steps => exact .pass t.stack block outer
  | spawn tasks => exact .pass t.stack block outer
  | yield => exact .pass t.stack block outer

/-- A turn that makes progress in the lists of one owner only moves that owner. -/
private theorem happens_of_blocks {t : Turn} {m' : Machine} {stack : ContextStack}
    {before blocks : List Block} (hbefore : m.blocksOf owner = before)
    (hstack : m'.thread.stack = stack)
    (hblocks : ∀ other, m'.blocksOf other = if other = owner then blocks else m.blocksOf other)
    (hprogress : Progress owner m.thread.stack before stack blocks) : Happens m t m' := by
  refine .moved owner ?_ fun other hne => by rw [hblocks, if_neg hne]
  rw [hstack, hblocks, if_pos rfl, hbefore]
  exact hprogress

/-- A turn that leaves the stack and all lists as they are is a pause of any owner. -/
private theorem happens_pause {t : Turn} {m' : Machine} (owner : Owner)
    (hstack : m'.thread.stack = m.thread.stack)
    (hblocks : ∀ other, m'.blocksOf other = m.blocksOf other) : Happens m t m' := by
  refine happens_of_blocks (rfl : m.blocksOf owner = _) hstack (fun other => ?_) (.pause _ _)
  by_cases hother : other = owner
  · rw [if_pos hother, hblocks, hother]
  · rw [if_neg hother, hblocks]

/-- To complete a step, with the stack as it is, goes past that step or changes no lists. -/
private theorem happens_complete {t : Turn} {m' : Machine} (hstrands : m'.strands = m.strands)
    (hstack : m'.thread.stack = m.thread.stack) (hs : m.strand? owner = some s)
    (outcome : Outcome) : Happens m t (m'.complete s outcome) := by
  obtain ⟨hheld, rfl⟩ := blocksOf_of_strand? hs
  have hsame : ∀ other, m'.blocksOf other = m.blocksOf other := fun other => by
    rw [blocksOf, strand?, hstrands, ← strand?, ← blocksOf]
  have hs' : m'.strand? s.owner = some s := by rw [strand?, hstrands, ← strand?, hs]
  have hstack' : (m'.complete s outcome).thread.stack = m.thread.stack := by
    rw [complete_thread, hstack]
  cases hcons : s.blocks with
  | nil =>
    refine happens_pause s.owner hstack' fun other => ?_
    simp only [complete, hcons, hsame]
  | cons block outer =>
    by_cases hsteps : block.steps = []
    · refine happens_pause s.owner hstack' fun other => ?_
      simp only [complete, hcons, hsteps, hsame]
    · refine happens_of_blocks (hheld.trans hcons) hstack' (fun other => ?_) (.pass _ block outer)
      rw [blocksOf_complete hs' hcons hsteps, hsame]

/-- A strand of which no lists are left changes nothing when it ends. -/
private theorem happens_finish {t : Turn} (hs : m.strand? owner = some s)
    (hblocks : s.blocks = []) : Happens m t (m.finish s) := by
  obtain ⟨hheld, rfl⟩ := blocksOf_of_strand? hs
  refine happens_pause s.owner rfl fun other => ?_
  by_cases hother : other = s.owner
  · have hgone : (m.finish s).strand? other = none := by
      unfold finish strand?
      refine List.find?_eq_none.mpr fun x hx => ?_
      simpa [hother] using (List.mem_filter.mp hx).2
    rw [hother, hheld, hblocks, ← hother, blocksOf, hgone]
    rfl
  · unfold blocksOf finish strand?
    rw [List.find?_filter]
    congr 3
    funext x
    by_cases hx : x.owner = other <;> simp [hx, hother]

/-- The end of a list of steps drops its guards and goes on after it. -/
private theorem happens_endBlock {t : Turn} (hs : m.strand? owner = some s) {block : Block}
    {outer : List Block} (hblocks : s.blocks = block :: outer)
    (hnested : Block.Nested s.blocks) : Happens m t (m.endBlock s block outer) := by
  obtain ⟨hheld, rfl⟩ := blocksOf_of_strand? hs
  rw [hblocks] at hheld hnested
  -- A list that is no strand stands inside the step at the head of another.
  have hresume : block.kind ≠ .strand → ∃ around outer', outer = around :: outer' ∧
      around.steps ≠ [] ∧ Block.resume outer = around.past around.guards :: outer' := by
    intro hkind
    cases outer with
    | nil => exact absurd hnested hkind
    | cons around outer' => exact ⟨around, outer', rfl, hnested.2.1, rfl⟩
  unfold endBlock
  dsimp only
  cases hkind : block.kind with
  | strand =>
    refine happens_of_blocks hheld (Thread.leaveAll_stack m.thread s.owner _) (fun other => ?_)
      (.endStrand _ block outer hkind)
    exact blocksOf_withStrand (by exact hs) other
  | panic =>
    obtain ⟨around, outer', rfl, hsteps, hresumed⟩ := hresume (by simp [hkind])
    refine happens_of_blocks hheld ?_ (fun other => ?_)
      (.endPanic _ block (around :: outer') hkind)
    · rw [complete_thread]
      exact Thread.leaveAll_stack m.thread s.owner _
    · rw [hresumed]
      exact blocksOf_complete (by exact hs) rfl hsteps _ other
  | scope sequence =>
    obtain ⟨around, outer', rfl, hsteps, hresumed⟩ := hresume (by simp [hkind])
    refine happens_of_blocks hheld ?_ (fun other => ?_)
      (.endScope _ block (around :: outer') hkind)
    · rw [complete_thread]
      exact congrArg (·.closeScope sequence) (Thread.leaveAll_stack m.thread s.owner _)
    · rw [hresumed]
      exact blocksOf_complete (by exact hs) rfl hsteps _ other

/-- Strands put after the others change what an owner is in only if it was in nothing. -/
private theorem blocksOf_append (m : Machine) (begun : List Strand) (queue : List Owner)
    (nextTask : Nat) (owner : Owner) :
    Machine.blocksOf { m with strands := m.strands ++ begun, queue, nextTask } owner =
        m.blocksOf owner ∨
      m.blocksOf owner = [] ∧ ∃ s ∈ begun,
        Machine.blocksOf { m with strands := m.strands ++ begun, queue, nextTask } owner =
          s.blocks := by
  unfold blocksOf strand?
  rw [List.find?_append]
  cases hfind : m.strands.find? (·.owner = owner) with
  | some s => exact Or.inl rfl
  | none =>
    cases hbegun : begun.find? (·.owner = owner) with
    | none => exact Or.inl rfl
    | some s => exact Or.inr ⟨rfl, s, List.mem_of_find?_eq_some hbegun, rfl⟩

/-- Spawning begins a list for each task and leaves the stack as it is. -/
private theorem happens_spawn (sources : Sources) (hs : m.strand? owner = some s) {block : Block}
    {outer : List Block} (hblocks : s.blocks = block :: outer) {tasks : List (List Step)}
    (hstep : .spawn tasks ∈ block.steps) (place : List Nat) :
    Happens m (.move owner sources) (m.spawn s place tasks) := by
  obtain ⟨hheld, -⟩ := blocksOf_of_strand? hs
  refine .begun rfl fun other => ?_
  have hwait := blocksOf_wait hs (some (.tasks (List.range' m.nextTask tasks.length))) rfl other
  rcases blocksOf_append (m.withStrand { s with
      wait := some (.tasks (List.range' m.nextTask tasks.length)) }) _ _ _ other with
    hsame | ⟨hnone, begun, hbegun, hnew⟩
  · exact Or.inl (hsame.trans hwait)
  · refine Or.inr ⟨hwait.symm.trans hnone, ?_⟩
    obtain ⟨i, hi, rfl⟩ := List.mem_mapIdx.mp hbegun
    refine ⟨_, _, hnew, .spawned sources (hheld.trans hblocks ▸ List.mem_cons_self) hstep ?_⟩
    exact (List.of_mem_zip (List.getElem_mem hi)).2

/-- A step that is done moves its owner on. -/
private theorem happens_perform (sources : Sources) (hs : m.strand? owner = some s) {block : Block}
    {outer : List Block} (hblocks : s.blocks = block :: outer) {step : Step}
    (hstep : step ∈ block.steps) :
    let done := step.perform sources s.owner block.guards m.thread
    Happens m (.move owner sources) ((m.withThread done.thread).complete
      { s with blocks := { block with guards := done.guards } :: outer } done.outcome) := by
  obtain ⟨hheld, rfl⟩ := blocksOf_of_strand? hs
  have hprogress := progress_perform s.owner sources m.thread block outer hstep
  generalize step.perform sources s.owner block.guards m.thread = done at hprogress
  have hs' : (m.withThread done.thread).strand? s.owner = some s := hs
  refine happens_of_blocks (hheld.trans hblocks) ?_ (fun other => ?_) hprogress
  · rw [complete_thread]
    rfl
  · exact blocksOf_complete
      (s := { s with blocks := { block with guards := done.guards } :: outer }) hs' rfl
      (List.ne_nil_of_mem hstep) _ other

/-- One step begun, or done if nothing stands inside it. -/
private theorem happens_runStep (sources : Sources) (hs : m.strand? owner = some s) {block : Block}
    {outer : List Block} (hblocks : s.blocks = block :: outer) {step : Step}
    (hstep : step ∈ block.steps) :
    Happens m (.move owner sources) (m.runStep sources s block outer step) := by
  obtain ⟨hheld, howner⟩ := blocksOf_of_strand? hs
  cases step with
  | scope frame steps =>
    cases hframe : sources.frame frame with
    | error e =>
      simp only [runStep, hframe]
      refine happens_complete ?_ ?_ hs _ <;> rfl
    | ok context =>
      simp only [runStep, hframe]
      subst howner
      refine happens_of_blocks (hheld.trans hblocks) rfl (fun other => ?_)
        (.openScope _ block outer context (block.place ++ [block.index]) hstep)
      rw [← hblocks]
      exact blocksOf_withStrand (by exact hs) other
  | panic steps =>
    simp only [runStep]
    subst howner
    refine happens_of_blocks (hheld.trans hblocks) rfl (fun other => ?_)
      (.beginPanic _ block outer (block.place ++ [block.index]) hstep)
    rw [← hblocks]
    exact blocksOf_withStrand (by exact hs) other
  | spawn tasks =>
    simp only [runStep]
    split
    · exact happens_complete rfl rfl hs _
    · exact happens_spawn sources hs hblocks hstep _
  | yield =>
    simp only [runStep]
    exact happens_pause owner rfl fun other => blocksOf_wait hs _ rfl other
  | use request hook keep => exact happens_perform sources hs hblocks hstep
  | temporary overrides keep => exact happens_perform sources hs hblocks hstep
  | enter frame keep => exact happens_perform sources hs hblocks hstep
  | build request => exact happens_perform sources hs hblocks hstep
  | drop name => exact happens_perform sources hs hblocks hstep
  | forget name => exact happens_perform sources hs hblocks hstep
  | look => exact happens_perform sources hs hblocks hstep
  | levelName base => exact happens_perform sources hs hblocks hstep
  | same frame => exact happens_perform sources hs hblocks hstep

/-- One move of a strand. -/
private theorem happens_runStrand (sources : Sources) (hs : m.strand? owner = some s)
    (hnested : Block.Nested (m.blocksOf owner)) :
    Happens m (.move owner sources) (m.runStrand sources s) := by
  obtain ⟨hheld, howner⟩ := blocksOf_of_strand? hs
  unfold runStrand
  split
  · exact happens_complete rfl rfl hs _
  · split
    · exact happens_complete rfl rfl hs _
    · exact happens_pause owner rfl fun other => blocksOf_wait hs _ rfl other
  · split
    · next hnil => exact happens_finish hs hnil
    · next block outer hcons =>
      split
      · exact happens_endBlock hs hcons (hheld ▸ hnested)
      · next step rest hsteps =>
        exact happens_runStep sources hs hcons (by rw [hsteps]; exact List.mem_cons_self)

/-- A list of steps begun from outside is the only one of its owner. -/
private theorem happens_launch {t : Turn} {m' : Machine} (hstrands : m'.strands = m.strands)
    (hstack : m'.thread.stack = m.thread.stack) (owner : Owner) {steps : List Step}
    (hbegins : m.Begins t steps) : Happens m t (m'.launch owner steps) := by
  have hsame : ∀ other, m'.blocksOf other = m.blocksOf other := fun other => by
    rw [blocksOf, strand?, hstrands, ← strand?, ← blocksOf]
  unfold launch
  split
  · exact happens_pause owner hstack hsame
  · refine .begun hstack fun other => ?_
    rcases blocksOf_append m' [⟨owner, [.ofStrand [] steps], none⟩] _ _ other with
      hkept | ⟨hnone, begun, hbegun, hnew⟩
    · exact Or.inl (hkept.trans (hsame other))
    · rw [List.mem_singleton.mp hbegun] at hnew
      exact Or.inr ⟨(hsame other).symm.trans hnone, [], steps, hnew, hbegins⟩

/-- A turn lets one owner get on or begins lists of steps, and does nothing else. -/
theorem happens_turn (m : Machine) (t : Turn) (hnested : ∀ owner, Block.Nested (m.blocksOf owner)) :
    Happens m t (m.turn t) := by
  cases t with
  | outside steps =>
    simp only [turn]
    exact happens_launch rfl rfl none (.outside steps)
  | task steps =>
    simp only [turn]
    refine happens_launch ?_ ?_ (some m.nextTask) (.task steps) <;> rfl
  | move owner sources =>
    cases hs : m.strand? owner with
    | none =>
      simp only [turn, hs]
      exact happens_pause owner rfl fun other => rfl
    | some s =>
      simp only [turn, hs]
      exact happens_runStrand sources hs (hnested owner)

end Machine

end LayeredSettings
