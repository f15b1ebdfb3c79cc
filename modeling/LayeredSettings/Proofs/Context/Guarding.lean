import LayeredSettings.Proofs.Context.Sweeping
import LayeredSettings.Proofs.Context.Turns
import LayeredSettings.Proofs.Lists

/-!
# The guards that lists of steps hold

While no guard is forgotten, the lists that an owner is in hold the guards of all frames that it has
entered since they began, and they know the scopes that it has opened. To end a list, then, is to
take away what has come onto the stack with it, and nothing else.
-/

namespace LayeredSettings

mutual

/-- A guard is forgotten by a step or by one that stands inside it. -/
def Step.forgets : Step → Bool
  | .forget _ => true
  | .scope _ steps => Step.anyForgets steps
  | .panic steps => Step.anyForgets steps
  | .spawn tasks => Step.anyTaskForgets tasks
  | _ => false

/-- A guard is forgotten by one of several steps. -/
def Step.anyForgets : List Step → Bool
  | [] => false
  | step :: rest => step.forgets || Step.anyForgets rest

/-- A guard is forgotten by one of several tasks. -/
def Step.anyTaskForgets : List (List Step) → Bool
  | [] => false
  | steps :: rest => Step.anyForgets steps || Step.anyTaskForgets rest

end

/-- A guard is forgotten by some steps exactly if one of them forgets one. -/
theorem Step.anyForgets_eq_any (steps : List Step) :
    Step.anyForgets steps = steps.any Step.forgets := by
  induction steps with
  | nil => rfl
  | cons step rest ih => rw [Step.anyForgets, ih, List.any_cons]

/-- A guard is forgotten by some tasks exactly if one of them forgets one. -/
theorem Step.anyTaskForgets_eq_any (tasks : List (List Step)) :
    Step.anyTaskForgets tasks = tasks.any Step.anyForgets := by
  induction tasks with
  | nil => rfl
  | cons steps rest ih => rw [Step.anyTaskForgets, ih, List.any_cons]

/-- A guard is forgotten by the steps that a turn begins from outside. -/
def Turn.forgets : Turn → Bool
  | .outside steps => Step.anyForgets steps
  | .task steps => Step.anyForgets steps
  | .move _ _ => false

/-- To take the oldest guard under a name splits the guards. -/
theorem Guards.mem_of_take? {name : String} {guards others : Guards} {guard : Guard}
    (h : guards.take? name = some (guard, others)) (g : Guard) :
    g ∈ guards.map (·.2) ↔ g = guard ∨ g ∈ others.map (·.2) := by
  induction guards generalizing others with
  | nil => cases h
  | cons entry rest ih =>
    obtain ⟨kept, first⟩ := entry
    rw [Guards.take?] at h
    split at h
    · cases h
      rw [List.map_cons, List.mem_cons]
    · obtain ⟨⟨found, left⟩, htake, heq⟩ := Option.map_eq_some_iff.mp h
      obtain ⟨rfl, rfl⟩ := Prod.mk.inj heq
      rw [List.map_cons, List.mem_cons, ih htake, List.map_cons, List.mem_cons]
      exact or_left_comm

namespace Block

/-- The guards that lists of steps hold. -/
def guardsIn (blocks : List Block) : List Guard := blocks.flatMap fun b => b.guards.map (·.2)

/-- The number of the scope that a list of steps is the inside of. -/
def scope? (b : Block) : Option ℕ :=
  match b.kind with
  | .scope sequence => some sequence
  | _ => none

/-- The numbers of the scopes that lists of steps are the insides of, innermost first. -/
def scopesIn (blocks : List Block) : List ℕ := blocks.filterMap scope?

/-- A guard is forgotten by a step that is left in one of some lists. -/
def forgetful (blocks : List Block) : Bool := blocks.any fun b => Step.anyForgets b.steps

/-- No lists hold no guards. -/
@[simp] theorem guardsIn_nil : guardsIn [] = [] := rfl

/-- The guards of the innermost list stand before those of the lists around it. -/
@[simp] theorem guardsIn_cons (b : Block) (outer : List Block) :
    guardsIn (b :: outer) = b.guards.map (·.2) ++ guardsIn outer := List.flatMap_cons

/-- No lists are the insides of no scopes. -/
@[simp] theorem scopesIn_nil : scopesIn [] = [] := rfl

/-- The scope of the innermost list, if it has one, stands before those of the lists around it. -/
@[simp] theorem scopesIn_cons (b : Block) (outer : List Block) :
    scopesIn (b :: outer) = b.scope?.toList ++ scopesIn outer :=
  filterMap_cons_eq_append scope? b outer

/-- Going past a step does not leave the scope. -/
@[simp] theorem scope?_past (b : Block) (guards : Guards) : (b.past guards).scope? = b.scope? := rfl

/-- Going on after the inside of a step changes no guards. -/
@[simp] theorem guardsIn_resume (blocks : List Block) :
    guardsIn (resume blocks) = guardsIn blocks := by
  cases blocks <;> simp [resume, past]

/-- Going on after the inside of a step changes no scopes. -/
@[simp] theorem scopesIn_resume (blocks : List Block) :
    scopesIn (resume blocks) = scopesIn blocks := by
  cases blocks <;> simp [resume]

/-- Going on after the inside of a step ends no list. -/
@[simp] theorem length_resume (blocks : List Block) : (resume blocks).length = blocks.length := by
  cases blocks <;> simp [resume]

end Block

/-- What progress may do to the stack, the guards that an owner's lists hold, and the numbers of the
scopes that they are the insides of. Only if a guard may be forgotten is one lost. -/
inductive Effect (owner : Owner) (mayForget : Bool) (s : ContextStack) (guards : List Guard)
    (scopes : List ℕ) : ContextStack → List Guard → List ℕ → Prop
  | keep {kept : List Guard} (hkept : ∀ g, g ∈ guards ↔ g ∈ kept) :
      Effect owner mayForget s guards scopes s kept scopes
  | forget {kept : List Guard} (hkept : ∀ g ∈ kept, g ∈ guards) (hforget : mayForget = true) :
      Effect owner mayForget s guards scopes s kept scopes
  | enter (context : SettingsContext) {guard : Guard} {kept : List Guard}
      (hsequence : guard.sequence = s.next) (howner : guard.owner = owner)
      (hkept : ∀ g, g ∈ kept ↔ g = guard ∨ g ∈ guards) :
      Effect owner mayForget s guards scopes (s.enter owner context) kept scopes
  | drop {dropped kept : List Guard} (hsplit : ∀ g, g ∈ guards ↔ g ∈ dropped ∨ g ∈ kept) :
      Effect owner mayForget s guards scopes (s.leaveAll dropped) kept scopes
  | openScope (context : SettingsContext) :
      Effect owner mayForget s guards scopes (s.openScope owner context) guards (s.next :: scopes)
  | closeScope {dropped kept : List Guard} {sequence : ℕ} {outer : List ℕ}
      (hscopes : scopes = sequence :: outer)
      (hsplit : ∀ g, g ∈ guards ↔ g ∈ dropped ∨ g ∈ kept) :
      Effect owner mayForget s guards scopes ((s.leaveAll dropped).closeScope sequence) kept outer

open Block in
/-- Progress has one of these effects. -/
theorem Machine.Progress.effect {owner : Owner} {s s' : ContextStack} {blocks blocks' : List Block}
    (h : Progress owner s blocks s' blocks') :
    Effect owner (forgetful blocks) s (guardsIn blocks) (scopesIn blocks) s' (guardsIn blocks')
      (scopesIn blocks') := by
  cases h with
  | pause => exact .keep fun _ => Iff.rfl
  | pass block outer =>
    simp only [guardsIn_cons, scopesIn_cons, scope?_past]
    exact .keep fun _ => Iff.rfl
  | enter block outer context keep hsequence howner =>
    simp only [guardsIn_cons, scopesIn_cons, scope?_past]
    refine .enter context hsequence howner fun g => ?_
    simp only [past, List.map_append, List.mem_append, List.map_cons, List.map_nil,
      List.mem_singleton]
    tauto
  | drop block outer htake =>
    simp only [guardsIn_cons, scopesIn_cons, scope?_past]
    refine .drop fun g => ?_
    simp only [past, List.mem_append, Guards.mem_of_take? htake, List.mem_singleton, or_assoc]
  | forget block outer htake hstep =>
    simp only [guardsIn_cons, scopesIn_cons, scope?_past]
    refine .forget (fun g hg => ?_) ?_
    · rw [List.mem_append, Guards.mem_of_take? htake, or_assoc]
      exact Or.inr (List.mem_append.mp hg)
    · have hforgets : Step.anyForgets block.steps = true := by
        rw [Step.anyForgets_eq_any]
        exact List.any_eq_true.mpr ⟨_, hstep, rfl⟩
      rw [forgetful, List.any_cons, hforgets, Bool.true_or]
  | openScope block outer context place hstep => exact .openScope context
  | beginPanic block outer place hstep => exact .keep fun _ => Iff.rfl
  | endStrand block outer hkind =>
    rw [scopesIn_cons, scope?, hkind, guardsIn_cons]
    exact .drop fun g => List.mem_append
  | endPanic block outer hkind =>
    rw [scopesIn_cons, scope?, hkind, guardsIn_cons, scopesIn_resume, guardsIn_resume]
    exact .drop fun g => List.mem_append
  | endScope block outer hkind =>
    rw [scopesIn_cons, scope?, hkind, guardsIn_cons, scopesIn_resume, guardsIn_resume]
    exact .closeScope rfl fun g => List.mem_append

/-- The guards that an owner holds and the scopes that it is inside of, of those that it has begun
since the next number was `n` and just some scopes were open. -/
structure Holds (owner : Owner) (n : ℕ) (before : List Frame) (s : ContextStack)
    (guards : List Guard) (scopes : List ℕ) : Prop where
  /-- No number is given back. -/
  next_le : n ≤ s.next
  /-- The guards are the owner's and were made since. -/
  young : ∀ g ∈ guards, g.owner = owner ∧ n ≤ g.sequence
  /-- The scopes that are open beside those from before are the ones it is inside of. -/
  opened : ∃ opened, s.scopesOf owner = opened ++ before ∧ opened.map (·.sequence) = scopes

/-- The frames that an owner had entered when the next number was `n` are there, and for each that
it has entered since there is a guard. -/
structure Covers (owner : Owner) (n : ℕ) (before : List Frame) (s : ContextStack)
    (guards : List Guard) : Prop where
  /-- The older frames are those from before. -/
  older : (s.framesOf owner).filter (·.sequence < n) = before
  /-- The younger frames have their guards. -/
  guarded : ∀ f ∈ s.framesOf owner, n ≤ f.sequence → ∃ g ∈ guards, g.sequence = f.sequence

/-- A stack on which an owner has changed something that another owner cannot see. -/
structure ContextStack.ChangedBy (owner : Owner) (s s' : ContextStack) : Prop where
  /-- The order of the numbers is kept. -/
  ordered : s'.Ordered
  /-- No number is given back. -/
  next_le : s.next ≤ s'.next
  /-- The frames of the others are untouched. -/
  framesOf_eq : ∀ other, other ≠ owner → s'.framesOf other = s.framesOf other
  /-- The scopes of the others are untouched. -/
  scopesOf_eq : ∀ other, other ≠ owner → s'.scopesOf other = s.scopesOf other

section Effects

variable {owner : Owner} {mayForget : Bool} {s s' : ContextStack} {guards guards' : List Guard}
  {scopes scopes' : List ℕ} {n : ℕ} {frames outside : List Frame}

/-- Dropping some of the guards that are held sweeps the stack, and takes their frames off it. -/
private theorem swept_of_split (hs : s.Ordered) (h : Holds owner n outside s guards scopes)
    {dropped kept : List Guard} (hsplit : ∀ g, g ∈ guards ↔ g ∈ dropped ∨ g ∈ kept) :
    s.Swept owner n (s.leaveAll dropped) ∧
      ∀ f ∈ (s.leaveAll dropped).framesOf owner, ∀ g ∈ dropped, f.sequence ≠ g.sequence :=
  hs.swept_leaveAll (fun g hg => (h.young g ((hsplit g).mpr (Or.inl hg))).1)
    fun g hg => (h.young g ((hsplit g).mpr (Or.inl hg))).2

/-- The innermost scope of an owner is the one whose inside it is in. -/
private theorem scopesOf_closeScope_of_swept (hs : s.Ordered)
    (h : Holds owner n outside s guards scopes) {t : ContextStack} (hswept : s.Swept owner n t)
    {sequence : ℕ} {rest : List ℕ} (hscopes : scopes = sequence :: rest) :
    (∀ other, other ≠ owner → (t.closeScope sequence).scopesOf other = s.scopesOf other) ∧
      ∃ opened, (t.closeScope sequence).scopesOf owner = opened ++ outside ∧
        opened.map (·.sequence) = rest := by
  obtain ⟨opened, hopened, hnumbers⟩ := h.opened
  rw [hscopes] at hnumbers
  obtain ⟨scope, inner, rfl, rfl, hrest⟩ := List.map_eq_cons_iff.mp hnumbers
  have hscopesOf : t.scopesOf owner = scope :: (inner ++ outside) := by
    rw [hswept.scopesOf_eq, hopened, List.cons_append]
  have hinnermost : t.innermost? owner = some scope := by
    rw [ContextStack.innermost?_eq_head?, hscopesOf, List.head?_cons]
  have hclosed : ∀ other, (t.closeScope scope.sequence).scopesOf other =
      if other = owner then (t.scopesOf owner).tail else t.scopesOf other := fun other =>
    (hswept.ordered hs).scopesOf_closeScope_innermost hinnermost
  refine ⟨fun other hne => ?_, inner, ?_, hrest⟩
  · rw [hclosed, if_neg hne, hswept.scopesOf_eq]
  · rw [hclosed, if_pos rfl, hscopesOf, List.tail_cons]

/-- An effect is seen by its owner only. -/
theorem Effect.changedBy (he : Effect owner mayForget s guards scopes s' guards' scopes')
    (hs : s.Ordered) (h : Holds owner n outside s guards scopes) :
    ContextStack.ChangedBy owner s s' := by
  cases he with
  | keep => exact ⟨hs, le_rfl, fun _ _ => rfl, fun _ _ => rfl⟩
  | forget => exact ⟨hs, le_rfl, fun _ _ => rfl, fun _ _ => rfl⟩
  | enter context =>
    refine ⟨hs.enter owner context, Nat.le_succ s.next, fun other hne => ?_, fun _ _ => rfl⟩
    rw [ContextStack.framesOf_enter, if_neg hne]
  | drop hsplit =>
    obtain ⟨hswept, -⟩ := swept_of_split hs h hsplit
    exact ⟨hswept.ordered hs, hswept.next_eq.ge, hswept.others, fun other _ =>
      hswept.scopesOf_eq other⟩
  | openScope context =>
    refine ⟨hs.openScope owner context, Nat.le_succ s.next, fun _ _ => rfl, fun other hne => ?_⟩
    rw [ContextStack.scopesOf_openScope, if_neg hne]
  | closeScope hscopes hsplit =>
    obtain ⟨hswept, -⟩ := swept_of_split hs h hsplit
    exact ⟨(hswept.ordered hs).closeScope _, hswept.next_eq.ge, hswept.others,
      (scopesOf_closeScope_of_swept hs h hswept hscopes).1⟩

/-- After an effect the owner still holds its guards and is inside of its scopes. -/
theorem Effect.holds (he : Effect owner mayForget s guards scopes s' guards' scopes')
    (hs : s.Ordered) (h : Holds owner n outside s guards scopes) :
    Holds owner n outside s' guards' scopes' := by
  have hnext := h.next_le.trans (he.changedBy hs h).next_le
  cases he with
  | keep hkept => exact ⟨hnext, fun g hg => h.young g ((hkept g).mpr hg), h.opened⟩
  | forget hkept => exact ⟨hnext, fun g hg => h.young g (hkept g hg), h.opened⟩
  | enter context hsequence howner hkept =>
    refine ⟨hnext, fun g hg => ?_, h.opened⟩
    rcases (hkept g).mp hg with rfl | hg
    · exact ⟨howner, hsequence ▸ h.next_le⟩
    · exact h.young g hg
  | drop hsplit =>
    obtain ⟨hswept, -⟩ := swept_of_split hs h hsplit
    refine ⟨hnext, fun g hg => h.young g ((hsplit g).mpr (Or.inr hg)), ?_⟩
    rw [hswept.scopesOf_eq]
    exact h.opened
  | openScope context =>
    obtain ⟨opened, hopened, hnumbers⟩ := h.opened
    refine ⟨hnext, h.young, s.newFrame owner context :: opened, ?_, ?_⟩
    · rw [ContextStack.scopesOf_openScope, if_pos rfl, hopened, List.cons_append]
    · rw [List.map_cons, hnumbers]
      rfl
  | closeScope hscopes hsplit =>
    obtain ⟨hswept, -⟩ := swept_of_split hs h hsplit
    exact ⟨hnext, fun g hg => h.young g ((hsplit g).mpr (Or.inr hg)),
      (scopesOf_closeScope_of_swept hs h hswept hscopes).2⟩

/-- After a sweep by some of the guards the others hold the frames that are left. -/
private theorem Covers.of_swept (hc : Covers owner n frames s guards)
    {t : ContextStack} (hswept : s.Swept owner n t) {dropped kept : List Guard}
    (hsplit : ∀ g, g ∈ guards ↔ g ∈ dropped ∨ g ∈ kept)
    (hgone : ∀ f ∈ t.framesOf owner, ∀ g ∈ dropped, f.sequence ≠ g.sequence) :
    Covers owner n frames t kept := by
  refine ⟨hswept.older.trans hc.older, fun f hf hn => ?_⟩
  obtain ⟨g, hg, hsequence⟩ := hc.guarded f (hswept.mem_framesOf hf) hn
  rcases (hsplit g).mp hg with hdropped | hkept
  · exact absurd hsequence.symm (hgone f hf g hdropped)
  · exact ⟨g, hkept, hsequence⟩

/-- After an effect that forgets nothing the owner's guards still cover its frames. -/
theorem Effect.covers (he : Effect owner false s guards scopes s' guards' scopes')
    (hs : s.Ordered) (h : Holds owner n outside s guards scopes)
    (hc : Covers owner n frames s guards) : Covers owner n frames s' guards' := by
  cases he with
  | keep hkept =>
    refine ⟨hc.older, fun f hf hn => ?_⟩
    obtain ⟨g, hg, hsequence⟩ := hc.guarded f hf hn
    exact ⟨g, (hkept g).mp hg, hsequence⟩
  | forget _ hforget => cases hforget
  | enter context hsequence howner hkept =>
    have hframes : (s.enter owner context).framesOf owner =
        s.framesOf owner ++ [s.newFrame owner context] := by
      rw [ContextStack.framesOf_enter, if_pos rfl]
    constructor
    · have hyoung : ¬ (s.newFrame owner context).sequence < n := not_lt.mpr h.next_le
      rw [hframes, List.filter_append, hc.older, List.filter_singleton]
      simp [hyoung]
    · intro f hf hn
      rw [hframes] at hf
      rcases List.mem_append.mp hf with hf | hf
      · obtain ⟨g, hg, heq⟩ := hc.guarded f hf hn
        exact ⟨g, (hkept g).mpr (Or.inr hg), heq⟩
      · refine ⟨_, (hkept _).mpr (Or.inl rfl), ?_⟩
        rw [List.mem_singleton.mp hf, hsequence]
        rfl
  | drop hsplit =>
    obtain ⟨hswept, hgone⟩ := swept_of_split hs h hsplit
    exact hc.of_swept hswept hsplit hgone
  | openScope context => exact ⟨hc.older, hc.guarded⟩
  | closeScope hscopes hsplit =>
    obtain ⟨hswept, hgone⟩ := swept_of_split hs h hsplit
    have hcovers := hc.of_swept hswept hsplit hgone
    exact ⟨hcovers.older, hcovers.guarded⟩

end Effects

end LayeredSettings
