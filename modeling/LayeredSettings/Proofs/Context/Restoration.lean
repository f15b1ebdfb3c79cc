import LayeredSettings.Proofs.Context.Guarding

/-!
# Every list of steps restores what it found

Whatever the order of turns, and whatever other owners do meanwhile: once a list of steps has ended,
normally or by a panic, and its guards have been dropped, its owner sees what it saw before the list
began, unless a guard was forgotten. When all lists have ended, nothing is left on the stack.
-/

namespace LayeredSettings

open Block

namespace Machine

section Local

variable {owner : Owner} {s s' : ContextStack} {blocks blocks' inner outer : List Block}

/-- Without the innermost list the others are still properly inside one another. -/
private theorem nested_tail {b : Block} (h : Nested (b :: outer)) : Nested outer := by
  cases outer with
  | nil => trivial
  | cons around outer => exact h.2.2

/-- Lists are still properly inside one another once the innermost has gone past a step. -/
private theorem nested_past {b : Block} (guards : Guards) (h : Nested (b :: outer)) :
    Nested (b.past guards :: outer) := by
  cases outer with
  | nil => exact h
  | cons around outer => exact ⟨h.1, h.2⟩

/-- Lists are still properly inside one another when the innermost goes on. -/
private theorem nested_resume (h : Nested outer) : Nested (resume outer) := by
  cases outer with
  | nil => trivial
  | cons b outer => exact nested_past b.guards h

/-- Progress keeps lists properly inside one another. -/
theorem Progress.nested (h : Progress owner s blocks s' blocks') (hnested : Nested blocks) :
    Nested blocks' := by
  cases h with
  | pause => exact hnested
  | pass => exact nested_past _ hnested
  | enter => exact nested_past _ hnested
  | drop => exact nested_past _ hnested
  | forget => exact nested_past _ hnested
  | openScope block outer context place hstep =>
    exact ⟨by simp, List.ne_nil_of_mem hstep, hnested⟩
  | beginPanic block outer place hstep => exact ⟨by simp, List.ne_nil_of_mem hstep, hnested⟩
  | endStrand => exact nested_tail hnested
  | endPanic => exact nested_resume (nested_tail hnested)
  | endScope => exact nested_resume (nested_tail hnested)

/-- Lists forget no guard exactly if no step left in the innermost does, nor the lists around it. -/
private theorem forgetful_cons {b : Block} :
    forgetful (b :: outer) = false ↔
      (∀ step ∈ b.steps, step.forgets = false) ∧ forgetful outer = false := by
  simp [forgetful, Step.anyForgets_eq_any]

/-- Going past a step leaves lists that forget no guard. -/
private theorem forgetful_past {b : Block} (guards : Guards)
    (h : forgetful (b :: outer) = false) : forgetful (b.past guards :: outer) = false := by
  obtain ⟨hsteps, houter⟩ := forgetful_cons.mp h
  exact forgetful_cons.mpr ⟨fun step hstep => hsteps step (List.mem_of_mem_tail hstep), houter⟩

/-- Going on leaves lists that forget no guard. -/
private theorem forgetful_resume (h : forgetful outer = false) :
    forgetful (resume outer) = false := by
  cases outer with
  | nil => rfl
  | cons b outer => exact forgetful_past b.guards h

/-- Progress in lists that forget no guard leads to such lists. -/
theorem Progress.forgetful_eq_false (h : Progress owner s blocks s' blocks')
    (hkeeps : forgetful blocks = false) : forgetful blocks' = false := by
  cases h with
  | pause => exact hkeeps
  | pass => exact forgetful_past _ hkeeps
  | enter => exact forgetful_past _ hkeeps
  | drop => exact forgetful_past _ hkeeps
  | forget => exact forgetful_past _ hkeeps
  | openScope block outer context place hstep =>
    have hinside := (forgetful_cons.mp hkeeps).1 _ hstep
    refine forgetful_cons.mpr ⟨?_, hkeeps⟩
    simpa [Step.forgets, Step.anyForgets_eq_any] using hinside
  | beginPanic block outer place hstep =>
    have hinside := (forgetful_cons.mp hkeeps).1 _ hstep
    refine forgetful_cons.mpr ⟨?_, hkeeps⟩
    simpa [Step.forgets, Step.anyForgets_eq_any] using hinside
  | endStrand => exact (forgetful_cons.mp hkeeps).2
  | endPanic => exact forgetful_resume (forgetful_cons.mp hkeeps).2
  | endScope => exact forgetful_resume (forgetful_cons.mp hkeeps).2

/-- Progress inside some lists leaves those around them alone, until the last of them ends. -/
theorem Progress.within (h : Progress owner s (inner ++ outer) s' blocks') (hinner : inner ≠ []) :
    ∃ inner', Progress owner s inner s' inner' ∧
      (inner' ≠ [] ∧ blocks' = inner' ++ outer ∨ inner' = [] ∧ blocks'.length = outer.length) := by
  obtain ⟨block, rest, rfl⟩ := List.exists_cons_of_ne_nil hinner
  rw [List.cons_append] at h
  cases h with
  | pause => exact ⟨_, .pause s _, Or.inl ⟨by simp, rfl⟩⟩
  | pass => exact ⟨_, .pass s block rest, Or.inl ⟨by simp, rfl⟩⟩
  | enter _ _ context keep hsequence howner =>
    exact ⟨_, .enter s block rest context keep hsequence howner, Or.inl ⟨by simp, rfl⟩⟩
  | drop _ _ htake => exact ⟨_, .drop s block rest htake, Or.inl ⟨by simp, rfl⟩⟩
  | forget _ _ htake hstep => exact ⟨_, .forget s block rest htake hstep, Or.inl ⟨by simp, rfl⟩⟩
  | openScope _ _ context place hstep =>
    exact ⟨_, .openScope s block rest context place hstep, Or.inl ⟨by simp, rfl⟩⟩
  | beginPanic _ _ place hstep =>
    exact ⟨_, .beginPanic s block rest place hstep, Or.inl ⟨by simp, rfl⟩⟩
  | endStrand _ _ hkind =>
    refine ⟨_, .endStrand s block rest hkind, ?_⟩
    cases rest with
    | nil => exact Or.inr ⟨rfl, rfl⟩
    | cons around rest => exact Or.inl ⟨by simp, rfl⟩
  | endPanic _ _ hkind =>
    refine ⟨_, .endPanic s block rest hkind, ?_⟩
    cases rest with
    | nil => exact Or.inr ⟨rfl, length_resume outer⟩
    | cons around rest => exact Or.inl ⟨by simp [resume], rfl⟩
  | endScope _ _ hkind =>
    refine ⟨_, .endScope s block rest hkind, ?_⟩
    cases rest with
    | nil => exact Or.inr ⟨rfl, length_resume outer⟩
    | cons around rest => exact Or.inl ⟨by simp [resume], rfl⟩

end Local

/-- The number of lists of steps that an owner is in. -/
def depth (m : Machine) (owner : Owner) : ℕ := (m.blocksOf owner).length

/-- The steps that are left in the innermost list of an owner. -/
def stepsOf (m : Machine) (owner : Owner) : List Step :=
  ((m.blocksOf owner).head?.map (·.steps)).getD []

/-- What an owner can see of the stack of a thread is the same on another one. -/
structure SeesSame (m m' : Machine) (owner : Owner) : Prop where
  /-- The same frames of its own are on the stack. -/
  frames : m'.thread.stack.framesOf owner = m.thread.stack.framesOf owner
  /-- The same scopes of its own are open. -/
  scopes : m'.thread.stack.scopesOf owner = m.thread.stack.scopesOf owner
  /-- The current context is the same, or there is none on both. -/
  current : m'.thread.current owner = m.thread.current owner

/-- An owner begins a list of steps with a turn, and the last of some turns after it ends the list.
-/
structure Spans (m : Machine) (first : Turn) (during : List Turn) (owner : Owner) : Prop where
  /-- The owner is in one more list after the first turn. -/
  begins : m.depth owner < (m.turn first).depth owner
  /-- It stays in the list until the last turn. -/
  lasts : ∀ k < during.length,
    m.depth owner < ((m.turn first).turns (during.take k)).depth owner
  /-- After the last turn it is not in the list any more. -/
  ends : ((m.turn first).turns during).depth owner ≤ m.depth owner

/-- The numbers on the stack are in order, and the lists of every owner are in order and hold what
it has entered. -/
structure Sound (m : Machine) : Prop where
  /-- The numbers are in order. -/
  ordered : m.thread.stack.Ordered
  /-- The lists are properly inside one another. -/
  nested : ∀ owner, Nested (m.blocksOf owner)
  /-- An owner's guards are its own, and it is inside of the scopes that it has open. -/
  holds : ∀ owner, Holds owner 0 [] m.thread.stack (guardsIn (m.blocksOf owner))
    (scopesIn (m.blocksOf owner))

variable {m m' : Machine} {t : Turn} {owner : Owner}

/-- What the guards hold depends on the owner's scopes and on numbers that are used up. -/
private theorem holds_congr {s s' : ContextStack} {n : ℕ} {outside : List Frame}
    {guards : List Guard} {scopes : List ℕ} (h : Holds owner n outside s guards scopes)
    (hnext : s.next ≤ s'.next) (hscopes : s'.scopesOf owner = s.scopesOf owner) :
    Holds owner n outside s' guards scopes :=
  ⟨h.next_le.trans hnext, h.young, hscopes ▸ h.opened⟩

/-- An idle thread is sound. -/
theorem Sound.idle (filter : LevelFilter) : (idle filter).Sound where
  ordered := .of_bare rfl rfl
  nested _ := trivial
  holds _ := ⟨Nat.zero_le _, by simp [blocksOf, strand?, Machine.idle], [], rfl, rfl⟩

/-- What a turn is to one owner: nothing that it can see, progress of its own, or the begin of a
list of steps when it was in none. -/
inductive Share (m : Machine) (t : Turn) (m' : Machine) (owner : Owner) : Prop
  | nothing (hblocks : m'.blocksOf owner = m.blocksOf owner)
      (hnext : m.thread.stack.next ≤ m'.thread.stack.next)
      (hframes : m'.thread.stack.framesOf owner = m.thread.stack.framesOf owner)
      (hscopes : m'.thread.stack.scopesOf owner = m.thread.stack.scopesOf owner)
  | progress (hprogress : Progress owner m.thread.stack (m.blocksOf owner) m'.thread.stack
      (m'.blocksOf owner))
  | begin (hstack : m'.thread.stack = m.thread.stack) (hnone : m.blocksOf owner = [])
      (place : List Nat) (steps : List Step) (hnew : m'.blocksOf owner = [.ofStrand place steps])
      (hbegins : m.Begins t steps)

/-- On a sound thread an owner has a share in a turn, or sees nothing of it. -/
theorem Sound.share (h : m.Sound) (hhappens : Happens m t m') (owner : Owner) :
    Share m t m' owner := by
  cases hhappens with
  | moved mover hprogress hothers =>
    by_cases howner : owner = mover
    · exact .progress (howner ▸ hprogress)
    · have hchanged := hprogress.effect.changedBy h.ordered (h.holds mover)
      exact .nothing (hothers owner howner) hchanged.next_le (hchanged.framesOf_eq owner howner)
        (hchanged.scopesOf_eq owner howner)
  | begun hstack hblocks =>
    rcases hblocks owner with hsame | ⟨hnone, place, steps, hnew, hbegins⟩
    · exact .nothing hsame (hstack ▸ le_rfl) (hstack ▸ rfl) (hstack ▸ rfl)
    · exact .begin hstack hnone place steps hnew hbegins

/-- What happens in one turn keeps a thread sound. -/
theorem Sound.happens (h : m.Sound) (hhappens : Happens m t m') : m'.Sound where
  ordered := by
    cases hhappens with
    | moved mover hprogress _ =>
      exact (hprogress.effect.changedBy h.ordered (h.holds mover)).ordered
    | begun hstack _ => exact hstack ▸ h.ordered
  nested owner := by
    cases h.share hhappens owner with
    | nothing hblocks => exact hblocks ▸ h.nested owner
    | progress hprogress => exact hprogress.nested (h.nested owner)
    | begin _ _ place steps hnew => exact hnew ▸ rfl
  holds owner := by
    have hholds := h.holds owner
    cases h.share hhappens owner with
    | nothing hblocks hnext _ hscopes => exact hblocks ▸ holds_congr hholds hnext hscopes
    | progress hprogress => exact hprogress.effect.holds h.ordered hholds
    | begin hstack hnone place steps hnew =>
      rw [hnone] at hholds
      rw [hstack, hnew]
      exact hholds

/-- A turn keeps a thread sound. -/
theorem Sound.turn (h : m.Sound) (t : Turn) : (m.turn t).Sound :=
  h.happens (happens_turn m t h.nested)

/-- A run keeps a thread sound. -/
theorem Sound.turns (h : m.Sound) (ts : List Turn) : (m.turns ts).Sound := by
  induction ts generalizing m with
  | nil => exact h
  | cons t rest ih => exact ih (h.turn t)

/-- Inside some lists of steps an owner is in others, which it has begun since the next number was
`n` and just some frames and scopes were its own, and in which no guard is forgotten. -/
structure Inside (owner : Owner) (n : ℕ) (frames scopes : List Frame) (outer : List Block)
    (m : Machine) (inner : List Block) : Prop where
  /-- There is at least one list that it has begun. -/
  begun : inner ≠ []
  /-- The lists around these are as they were. -/
  blocks : m.blocksOf owner = inner ++ outer
  /-- No guard is forgotten. -/
  remembers : forgetful inner = false
  /-- The lists hold only guards of younger frames, and are inside of the younger scopes. -/
  holds : Holds owner n scopes m.thread.stack (guardsIn inner) (scopesIn inner)
  /-- The older frames are as they were, and the lists hold the guards of the younger ones. -/
  covers : Covers owner n frames m.thread.stack (guardsIn inner)

/-- Which frames the guards cover depends on the owner's frames. -/
private theorem covers_congr {s s' : ContextStack} {n : ℕ} {frames : List Frame}
    {guards : List Guard} (h : Covers owner n frames s guards)
    (hframes : s'.framesOf owner = s.framesOf owner) : Covers owner n frames s' guards :=
  ⟨hframes ▸ h.older, hframes ▸ h.guarded⟩

/-- A list of steps newly begun, with a scope around it or none, and with nothing else changed. -/
def NewBlock (owner : Owner) (s s' : ContextStack) (b : Block) : Prop :=
  b.guards = [] ∧ (b.scope? = none ∧ s' = s ∨
    b.scope? = some s.next ∧ ∃ context, s' = s.openScope owner context)

/-- Progress into more lists begins one list inside those there were. -/
private theorem newBlock_of_progress {s s' : ContextStack} {blocks blocks' : List Block}
    (h : Progress owner s blocks s' blocks') (hlonger : blocks.length < blocks'.length) :
    ∃ b, blocks' = b :: blocks ∧ NewBlock owner s s' b := by
  cases h with
  | pause => exact absurd hlonger (lt_irrefl _)
  | pass => exact absurd hlonger (lt_irrefl _)
  | enter => exact absurd hlonger (lt_irrefl _)
  | drop => exact absurd hlonger (lt_irrefl _)
  | forget => exact absurd hlonger (lt_irrefl _)
  | openScope _ _ context => exact ⟨_, rfl, rfl, Or.inr ⟨rfl, context, rfl⟩⟩
  | beginPanic => exact ⟨_, rfl, rfl, Or.inl ⟨rfl, rfl⟩⟩
  | endStrand =>
    rw [List.length_cons] at hlonger
    omega
  | endPanic =>
    rw [List.length_cons, length_resume] at hlonger
    omega
  | endScope =>
    rw [List.length_cons, length_resume] at hlonger
    omega

/-- A turn after which an owner is in more lists of steps than before has begun one. -/
theorem Sound.newBlock_of_happens (h : m.Sound) (hhappens : Happens m t m')
    (hbegins : m.depth owner < m'.depth owner) :
    ∃ b, m'.blocksOf owner = b :: m.blocksOf owner ∧
      NewBlock owner m.thread.stack m'.thread.stack b := by
  unfold depth at hbegins
  cases h.share hhappens owner with
  | nothing hblocks =>
    rw [hblocks] at hbegins
    exact absurd hbegins (lt_irrefl _)
  | progress hprogress => exact newBlock_of_progress hprogress hbegins
  | begin hstack hnone place steps hnew =>
    exact ⟨_, by rw [hnew, hnone], rfl, Or.inl ⟨rfl, hstack⟩⟩

/-- When an owner has just begun a list of steps, it has entered nothing since. -/
theorem Sound.inside_of_begins (h : m.Sound) (hhappens : Happens m t m')
    (hbegins : m.depth owner < m'.depth owner)
    (hkeeps : Step.anyForgets (m'.stepsOf owner) = false) :
    ∃ inner, Inside owner m.thread.stack.next (m.thread.stack.framesOf owner)
      (m.thread.stack.scopesOf owner) (m.blocksOf owner) m' inner := by
  obtain ⟨b, hblocks, hguards, hscope⟩ := h.newBlock_of_happens hhappens hbegins
  have hremembers : forgetful [b] = false := by
    rw [stepsOf, hblocks] at hkeeps
    simpa [forgetful] using hkeeps
  have hnone : guardsIn [b] = [] := by simp [hguards]
  have hold : ∀ f ∈ m.thread.stack.framesOf owner, f.sequence < m.thread.stack.next := fun f hf =>
    h.ordered.frames_lt_next f (List.mem_of_mem_filter hf)
  have hcovers : Covers owner m.thread.stack.next (m.thread.stack.framesOf owner) m.thread.stack
      [] := by
    refine ⟨List.filter_eq_self.mpr fun f hf => by simpa using hold f hf, fun f hf hyoung => ?_⟩
    exact absurd (hold f hf) (not_lt.mpr hyoung)
  refine ⟨[b], by simp, hblocks, hremembers, ?_, ?_⟩
  · rw [hnone]
    rcases hscope with ⟨hscope, hstack⟩ | ⟨hscope, context, hstack⟩
    · exact ⟨hstack ▸ le_rfl, by simp, [], hstack ▸ rfl, by simp [hscope]⟩
    · refine ⟨hstack ▸ Nat.le_succ _, by simp, [m.thread.stack.newFrame owner context], ?_, ?_⟩
      · rw [hstack, ContextStack.scopesOf_openScope, if_pos rfl]
        rfl
      · rw [scopesIn_cons, hscope]
        rfl
  · rw [hnone]
    rcases hscope with ⟨-, hstack⟩ | ⟨-, context, hstack⟩
    · exact hstack ▸ hcovers
    · exact covers_congr hcovers (hstack ▸ rfl)

/-- When the last of the lists that an owner has begun has ended, nothing is left of them. -/
private theorem restored_of_ended {s : ContextStack} {n : ℕ} {frames scopes : List Frame}
    (hholds : Holds owner n scopes s [] []) (hcovers : Covers owner n frames s []) :
    s.framesOf owner = frames ∧ s.scopesOf owner = scopes := by
  constructor
  · rw [← hcovers.older]
    refine (List.filter_eq_self.mpr fun f hf => ?_).symm
    by_contra hyoung
    obtain ⟨g, hg, -⟩ := hcovers.guarded f hf (by simpa using hyoung)
    cases hg
  · obtain ⟨opened, hopened, hnumbers⟩ := hholds.opened
    rw [hopened, List.map_eq_nil_iff.mp hnumbers, List.nil_append]

/-- As long as the lists that an owner has begun have not ended, a turn leaves it inside of them;
when they have, it has the frames and scopes from before. -/
theorem Inside.happens {n : ℕ} {frames scopes : List Frame} {inner outer : List Block}
    (h : Inside owner n frames scopes outer m inner) (hs : m.Sound) (hhappens : Happens m t m') :
    (∃ inner', Inside owner n frames scopes outer m' inner') ∨
      m'.depth owner = outer.length ∧ m'.thread.stack.framesOf owner = frames ∧
        m'.thread.stack.scopesOf owner = scopes := by
  cases hs.share hhappens owner with
  | nothing hblocks hnext hframes hscopes =>
    exact Or.inl ⟨inner, h.begun, hblocks.trans h.blocks, h.remembers,
      holds_congr h.holds hnext hscopes, covers_congr h.covers hframes⟩
  | progress hprogress =>
    rw [h.blocks] at hprogress
    obtain ⟨inner', hinner, hends⟩ := hprogress.within h.begun
    have heffect := hinner.effect
    have hholds := heffect.holds hs.ordered h.holds
    rw [h.remembers] at heffect
    have hcovers := heffect.covers hs.ordered h.holds h.covers
    rcases hends with ⟨hne, hblocks⟩ | ⟨rfl, hlength⟩
    · exact Or.inl ⟨inner', hne, hblocks, hinner.forgetful_eq_false h.remembers, hholds, hcovers⟩
    · exact Or.inr ⟨hlength, restored_of_ended hholds hcovers⟩
  | begin _ hnone =>
    rw [h.blocks, List.append_eq_nil_iff] at hnone
    exact absurd hnone.1 h.begun

/-- Once the lists that an owner has begun have ended, it has the frames and scopes from before. -/
theorem Inside.turns {n : ℕ} {frames scopes : List Frame} {inner outer : List Block}
    (h : Inside owner n frames scopes outer m inner) (hs : m.Sound) {ts : List Turn}
    (hlasts : ∀ k < ts.length, outer.length < (m.turns (ts.take k)).depth owner)
    (hends : (m.turns ts).depth owner ≤ outer.length) :
    (m.turns ts).thread.stack.framesOf owner = frames ∧
      (m.turns ts).thread.stack.scopesOf owner = scopes := by
  induction ts generalizing m inner with
  | nil =>
    have hlonger : outer.length < (m.blocksOf owner).length := by
      rw [h.blocks, List.length_append]
      have hpos := List.length_pos_iff.mpr h.begun
      omega
    exact absurd hends (not_le.mpr hlonger)
  | cons t rest ih =>
    rcases h.happens hs (happens_turn m t hs.nested) with ⟨inner', hinside⟩ | ⟨hdepth, hrestored⟩
    · exact ih hinside (hs.turn t) (fun k hk => hlasts (k + 1) (Nat.succ_lt_succ hk)) hends
    · cases rest with
      | nil => exact hrestored
      | cons t' rest =>
        have hlonger := hlasts 1 (by simp)
        rw [List.take_one, List.head?_cons] at hlonger
        exact absurd hdepth hlonger.ne'

/-- A list of steps that forgets no guard ends with its owner seeing what it saw before. -/
theorem Sound.seesSame (h : m.Sound) {first : Turn} {during : List Turn}
    (hspans : m.Spans first during owner)
    (hkeeps : Step.anyForgets ((m.turn first).stepsOf owner) = false) :
    m.SeesSame ((m.turn first).turns during) owner := by
  obtain ⟨inner, hinside⟩ :=
    h.inside_of_begins (happens_turn m first h.nested) hspans.begins hkeeps
  obtain ⟨hframes, hscopes⟩ := hinside.turns (h.turn first) hspans.lasts hspans.ends
  exact ⟨hframes, hscopes, ContextStack.current_congr hframes hscopes⟩

/-- No list of steps forgets a guard, and all frames have their guards. -/
structure Settled (m : Machine) : Prop where
  /-- No guard is forgotten. -/
  remembers : ∀ owner, forgetful (m.blocksOf owner) = false
  /-- The lists of an owner hold the guards of its frames. -/
  covers : ∀ owner, Covers owner 0 [] m.thread.stack (guardsIn (m.blocksOf owner))

/-- Steps that begin in a turn forget no guard if those from outside and those of all lists do not.
-/
private theorem Settled.begins (h : m.Settled) (ht : t.forgets = false) {steps : List Step}
    (hbegins : m.Begins t steps) : Step.anyForgets steps = false := by
  cases hbegins with
  | outside => exact ht
  | task => exact ht
  | @spawned owner block tasks _ sources hblock hstep hsteps =>
    have hblocks := h.remembers owner
    simp only [forgetful, List.any_eq_false, Bool.not_eq_true] at hblocks
    have hspawn := hblocks block hblock
    simp only [Step.anyForgets_eq_any, List.any_eq_false, Bool.not_eq_true] at hspawn
    have htasks := hspawn _ hstep
    simp only [Step.forgets, Step.anyTaskForgets_eq_any, List.any_eq_false,
      Bool.not_eq_true] at htasks
    exact htasks steps hsteps

/-- What happens in one turn keeps a thread settled. -/
theorem Settled.happens (h : m.Settled) (hs : m.Sound) (ht : t.forgets = false)
    (hhappens : Happens m t m') : m'.Settled where
  remembers owner := by
    cases hs.share hhappens owner with
    | nothing hblocks => exact hblocks ▸ h.remembers owner
    | progress hprogress => exact hprogress.forgetful_eq_false (h.remembers owner)
    | begin _ _ place steps hnew hbegins =>
      rw [hnew]
      simpa [forgetful, ofStrand] using h.begins ht hbegins
  covers owner := by
    have hcovers := h.covers owner
    cases hs.share hhappens owner with
    | nothing hblocks _ hframes => exact hblocks ▸ covers_congr hcovers hframes
    | progress hprogress =>
      have heffect := hprogress.effect
      rw [h.remembers owner] at heffect
      exact heffect.covers hs.ordered (hs.holds owner) hcovers
    | begin hstack hnone place steps hnew =>
      rw [hnone] at hcovers
      rw [hstack, hnew]
      exact hcovers

/-- Runs in which no guard is forgotten keep a thread settled. -/
theorem Settled.turns (h : m.Settled) (hs : m.Sound) {ts : List Turn}
    (hts : ∀ t ∈ ts, t.forgets = false) : (m.turns ts).Settled := by
  induction ts generalizing m with
  | nil => exact h
  | cons t rest ih =>
    exact ih (h.happens hs (hts t List.mem_cons_self) (happens_turn m t hs.nested)) (hs.turn t)
      fun t' ht' => hts t' (List.mem_cons_of_mem _ ht')

/-- An idle thread is settled. -/
theorem Settled.idle (filter : LevelFilter) : (idle filter).Settled where
  remembers _ := rfl
  covers _ := ⟨rfl, fun _ hf => by cases hf⟩

/-- When all lists of steps have ended on a settled thread, no frame and no scope is left. -/
theorem Settled.bare (h : m.Settled) (hs : m.Sound) (hended : ∀ s ∈ m.strands, s.blocks = []) :
    m.thread.stack.frames = [] ∧ m.thread.stack.scopes = [] := by
  have hrestored : ∀ owner, m.thread.stack.framesOf owner = [] ∧
      m.thread.stack.scopesOf owner = [] := by
    intro owner
    have hnone : m.blocksOf owner = [] := by
      unfold blocksOf strand?
      cases hfind : m.strands.find? (·.owner = owner) with
      | none => rfl
      | some s => exact hended s (List.mem_of_find?_eq_some hfind)
    have hholds := hs.holds owner
    have hcovers := h.covers owner
    rw [hnone] at hholds hcovers
    exact restored_of_ended hholds hcovers
  constructor
  · refine List.eq_nil_iff_forall_not_mem.mpr fun f hf => ?_
    have hmem : f ∈ m.thread.stack.framesOf f.owner := List.mem_filter.mpr ⟨hf, by simp⟩
    rw [(hrestored f.owner).1] at hmem
    cases hmem
  · refine List.eq_nil_iff_forall_not_mem.mpr fun f hf => ?_
    have hmem : f ∈ m.thread.stack.scopesOf f.owner := List.mem_filter.mpr ⟨hf, by simp⟩
    rw [(hrestored f.owner).2] at hmem
    cases hmem

/-- A program that forgets no guard leaves nothing on the stack once all its lists have ended. -/
theorem finished_bare (sources : Sources) (filter : LevelFilter) (steps : List Step)
    (hkeeps : Step.anyForgets steps = false)
    (hended : ∀ s ∈ (finished sources filter steps).strands, s.blocks = []) :
    (finished sources filter steps).thread.stack.frames = [] ∧
      (finished sources filter steps).thread.stack.scopes = [] := by
  obtain ⟨ts, hmoves, hrun⟩ := run_eq_turns sources (Step.movesOfAll steps + 4) (start filter steps)
  rw [finished, hrun, start_eq] at hended ⊢
  have hs := (Sound.idle filter).turn (.outside steps)
  have hsettled := (Settled.idle filter).happens (Sound.idle filter) (t := .outside steps) hkeeps
    (happens_turn _ _ (Sound.idle filter).nested)
  refine (hsettled.turns hs fun t ht => ?_).bare (hs.turns ts) hended
  obtain ⟨owner, rfl⟩ := hmoves t ht
  rfl

/-- A thread that was idle after any turns, in whatever order a scheduler may give them. -/
def reached (filter : LevelFilter) (ts : List Turn) : Machine := (idle filter).turns ts

/-- A list of steps that forgets no guard, whoever runs it and wherever it stands, ends with its
owner seeing what it saw just before the list began, whatever happened in between. If no list
forgets a guard, nothing is left on the stack once all lists have ended. -/
theorem frames_restored (filter : LevelFilter) (ts : List Turn) :
    (∀ (first : Turn) (during : List Turn) (owner : Owner),
      (reached filter ts).Spans first during owner →
      Step.anyForgets (((reached filter ts).turn first).stepsOf owner) = false →
        (reached filter ts).SeesSame (((reached filter ts).turn first).turns during) owner) ∧
      ((∀ t ∈ ts, t.forgets = false) → (∀ s ∈ (reached filter ts).strands, s.blocks = []) →
        (reached filter ts).thread.stack.frames = [] ∧
          (reached filter ts).thread.stack.scopes = []) := by
  have hs : (reached filter ts).Sound := (Sound.idle filter).turns ts
  refine ⟨fun first during owner hspans hkeeps => hs.seesSame hspans hkeeps,
    fun hforgets hended => ?_⟩
  exact ((Settled.idle filter).turns (.idle filter) hforgets).bare hs hended

/-- Sources without settings. -/
def bareSources : Sources := ⟨⟨"", none, []⟩, .empty, .empty⟩

/-- Steps that enter one frame and panic with two more, of which they drop the older. -/
def panicSteps : List Step :=
  [.enter ⟨some "a", .empty⟩ "g",
    .panic [.enter ⟨some "b", .empty⟩ "h", .enter ⟨some "c", .empty⟩ "k", .drop "h"]]

/-- Moves of the code outside any task. -/
def outsideMoves (n : ℕ) : List Turn := List.replicate n (.move none bareSources)

/-- A panic that drops the older of its two frames leaves the frame below in sight, and in the end
the stack is empty. -/
theorem frames_restored_of_panic :
    (reached none (.outside panicSteps :: outsideMoves 1)).SeesSame
        (reached none (.outside panicSteps :: outsideMoves 6)) none ∧
      (reached none (.outside panicSteps :: outsideMoves 1)).thread.current none =
        .ok ⟨⟨[]⟩, some "a"⟩ ∧
      (reached none (.outside panicSteps :: outsideMoves 7)).thread.stack.frames = [] := by
  have hspans : (reached none (.outside panicSteps :: outsideMoves 1)).Spans
      (.move none bareSources) (outsideMoves 4) none :=
    ⟨by decide +kernel, by decide +kernel, by decide +kernel⟩
  refine ⟨(frames_restored none _).1 _ _ _ hspans (by decide +kernel), by decide +kernel, ?_⟩
  refine ((frames_restored none _).2 ?_ (by decide +kernel)).1
  decide +kernel

end Machine

end LayeredSettings
