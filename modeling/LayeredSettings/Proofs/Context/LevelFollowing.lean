import LayeredSettings.Proofs.Context.HookOrder
import LayeredSettings.Proofs.Context.PrivateStacks

/-!
# The log level follows the current context

The logging hook sets the level before its context is entered and after its frame was left. The
level is that of the whole program, and yet it is the right one after every step, although guards
may be dropped in any order, take several frames with them, or find theirs gone: whatever is left on
the stack got there past the hook, and so asks for a level that there is.
-/

namespace LayeredSettings

/-- What the code outside tasks may do on a thread for the level to follow: enter contexts by way of
the logging hook of one base level, and drop or forget guards. -/
inductive Move.Logged (base : String) : Move → Prop
  | use (sources : Sources) (request : Request) :
    Logged base (.use sources none request (some (.logging base)))
  | drop (sequence : ℕ) : Logged base (.drop none sequence)
  | forget (sequence : ℕ) : Logged base (.forget sequence)

namespace ContextStack

/-- Where no scope is open, a context is seen once it is entered. -/
theorem current_enter {s : ContextStack} (hscopes : s.scopes = []) (owner : Owner)
    (context : SettingsContext) : (s.enter owner context).current owner = .ok context := by
  have htop : (s.enter owner context).top? owner = some (s.newFrame owner context) := by
    simp [top?, enter, newFrame]
  have hinnermost : (s.enter owner context).innermost? owner = none := by
    simp [innermost?, enter, hscopes]
  unfold current
  rw [htop, hinnermost]
  rfl

/-- Where no scope is open, what is seen was entered. -/
theorem exists_frame_of_current {s : ContextStack} (hscopes : s.scopes = []) {owner : Owner}
    {context : SettingsContext} (hcurrent : s.current owner = .ok context) :
    ∃ f ∈ s.frames, f.context = context := by
  have hinnermost : s.innermost? owner = none := by simp [innermost?, hscopes]
  unfold current at hcurrent
  rw [hinnermost] at hcurrent
  cases htop : s.top? owner with
  | none =>
    rw [htop] at hcurrent
    cases hcurrent
  | some f =>
    rw [htop] at hcurrent
    have hmem : f ∈ s.frames.reverse := List.mem_of_find?_eq_some htop
    exact ⟨f, List.mem_reverse.mp hmem, Except.ok.inj hcurrent⟩

/-- Leaving a frame puts nothing on the stack. -/
theorem mem_of_mem_leave {s : ContextStack} {sequence : ℕ} {owner : Owner} {f : Frame}
    (hf : f ∈ (s.leave sequence owner).frames) : f ∈ s.frames := by
  unfold leave at hf
  split at hf
  · exact hf
  · rcases List.mem_append.mp hf with hf | hf
    · exact List.mem_of_mem_take hf
    · exact List.mem_of_mem_drop (List.mem_of_mem_filter hf)

end ContextStack

namespace Thread

/-- The name of the level that the current context of the code outside tasks asks for, and the base
level's where there is none. -/
def levelName (t : Thread) (base : String) : String :=
  match t.current none with
  | .ok context => context.levelName base
  | .error _ => base

/-- The level asked for is settled by the stack. -/
theorem levelName_congr {t u : Thread} (hstack : t.stack = u.stack) (base : String) :
    t.levelName base = u.levelName base := by
  unfold levelName current
  rw [hstack]

/-- The logging hook, told what is seen, goes by the level that the current context asks for. -/
theorem onExit_logging (t : Thread) (base : String) :
    (Hook.logging base).onExit (t.current none).toOption =
      (Level.parse (t.levelName base)).map some := by
  unfold levelName
  cases t.current none <;> rfl

/-- The logging hook sets the level that the current context asks for, if there is that level, and
then there is no warning. -/
theorem told_logging {t : Thread} {base : String} {level : Level}
    (hlevel : Level.parse (t.levelName base) = .ok level) :
    (t.told none (.logging base)).journal = t.journal.withFilter (some level) := by
  have hanswer : (Hook.logging base).onExit (t.current none).toOption = .ok (some level) := by
    rw [onExit_logging, hlevel]
    rfl
  unfold told
  simp only [hanswer]
  rfl

/-- An accepted context asks for a level that there is, and that level is set. -/
theorem shown_logging {t : Thread} {sources : Sources} {owner : Owner} {request : Request}
    {base : String} {context : SettingsContext} {level : Level}
    (hlevel : Level.parse (context.levelName base) = .ok level) :
    (t.shown sources owner request (some (.logging base)) context).journal.filter =
      some level := by
  have hanswer : (Hook.logging base).onEnter context = .ok (some level) := by
    change (Level.parse (context.levelName base)).map some = _
    rw [hlevel]
    rfl
  unfold shown
  simp only [hanswer]
  rfl

/-- A refused context leaves the level alone. -/
theorem shown_refused {t : Thread} {sources : Sources} {owner : Owner} {request : Request}
    {hook : Hook} {context : SettingsContext} {e : SettingsError}
    (hrefused : hook.onEnter context = .error e) :
    (t.shown sources owner request (some hook) context).journal.filter = t.journal.filter := by
  unfold shown
  simp only [hrefused]
  rfl

end Thread

namespace GuardedThread

/-- What holds of a thread after any steps that keep to the logging hook. -/
structure AtLevel (base : String) (w : GuardedThread) : Prop where
  /-- Every context on the stack asks for a level that there is. -/
  frames : ∀ f ∈ w.thread.stack.frames, ∃ level, Level.parse (f.context.levelName base) = .ok level
  /-- No scope is open. -/
  scopes : w.thread.stack.scopes = []
  /-- Every guard has the logging hook. -/
  guards : ∀ g ∈ w.guards, g.hook = some (.logging base)
  /-- The filter is at the level that the current context asks for, or else at the base level. -/
  level : ∃ level, Level.parse (w.thread.levelName base) = .ok level ∧
    w.thread.journal.filter = some level
  /-- No hook has failed after its frame was left. -/
  reported : ∀ event ∈ w.thread.journal.reported, event.isExitFailure = false

variable {base : String} {level : Level} {w : GuardedThread}

/-- At the start there is no context, and the level is the base level. -/
theorem AtLevel.start (hbase : Level.parse base = .ok level) :
    (GuardedThread.start (some level)).AtLevel base where
  frames := by rintro f ⟨⟩
  scopes := rfl
  guards := by rintro g ⟨⟩
  level := ⟨level, hbase, rfl⟩
  reported := by rintro event ⟨⟩

/-- On a stack of contexts that ask for levels that there are, so does the current one, and else
there is the base level. -/
theorem exists_level {t : Thread} (hbase : Level.parse base = .ok level)
    (hscopes : t.stack.scopes = [])
    (hframes : ∀ f ∈ t.stack.frames, ∃ level, Level.parse (f.context.levelName base) = .ok level) :
    ∃ level, Level.parse (t.levelName base) = .ok level := by
  unfold Thread.levelName
  cases hcurrent : t.current none with
  | error e => exact ⟨level, hbase⟩
  | ok context =>
    obtain ⟨f, hf, rfl⟩ := ContextStack.exists_frame_of_current hscopes hcurrent
    exact hframes f hf

/-- A refused request leaves the level where it is. -/
theorem AtLevel.refused (h : w.AtLevel base) {thread : Thread}
    (hstack : thread.stack = w.thread.stack)
    (hfilter : thread.journal.filter = w.thread.journal.filter)
    (hreported : ∀ event ∈ thread.journal.reported, event.isExitFailure = false) :
    (GuardedThread.mk thread w.guards).AtLevel base where
  frames := hstack ▸ h.frames
  scopes := hstack ▸ h.scopes
  guards := h.guards
  level := by
    obtain ⟨level, hlevel, hset⟩ := h.level
    exact ⟨level, (Thread.levelName_congr hstack base).symm ▸ hlevel, hfilter.trans hset⟩
  reported := hreported

/-- Entering a context when the level is set to what it asks for keeps the level in step. -/
theorem AtLevel.entered (h : w.AtLevel base) {thread : Thread} {context : SettingsContext}
    {guard : Guard}
    (hlevel : Level.parse (context.levelName base) = .ok level)
    (hguard : guard.hook = some (.logging base))
    (hstack : thread.stack = w.thread.stack.enter none context)
    (hfilter : thread.journal.filter = some level)
    (hreported : ∀ event ∈ thread.journal.reported, event.isExitFailure = false) :
    (GuardedThread.mk thread (w.guards ++ [guard])).AtLevel base where
  frames := by
    rw [hstack]
    exact List.forall_mem_append.mpr ⟨h.frames, List.forall_mem_singleton.mpr ⟨level, hlevel⟩⟩
  scopes := by
    rw [hstack]
    exact h.scopes
  guards := List.forall_mem_append.mpr ⟨h.guards, List.forall_mem_singleton.mpr hguard⟩
  level := by
    have hcurrent : thread.current none = .ok context := by
      unfold Thread.current
      rw [hstack, ContextStack.current_enter h.scopes]
    refine ⟨level, ?_, hfilter⟩
    unfold Thread.levelName
    rw [hcurrent]
    exact hlevel
  reported := hreported

/-- Using a profile with the logging hook keeps the level in step. -/
theorem AtLevel.use (h : w.AtLevel base) (sources : Sources) (request : Request) :
    (w.move (.use sources none request (some (.logging base)))).AtLevel base := by
  have hevents : ∀ event ∈
      w.thread.journal.reported ++ sources.buildEvents (w.thread.current none) request,
      event.isExitFailure = false :=
    List.forall_mem_append.mpr
      ⟨h.reported, fun _ hevent => Sources.isExitFailure_of_mem_buildEvents hevent⟩
  simp only [GuardedThread.move, GuardedThread.keep]
  cases hadmitted : sources.admitted (w.thread.current none) request (some (.logging base)) with
  | error e =>
    have hnone : w.guards ++ (Except.error e : Except SettingsError Guard).toOption.toList =
        w.guards := List.append_nil w.guards
    rcases Sources.admitted_eq_error_iff.mp hadmitted with hbuild |
      ⟨context, hook, hbuild, hhook, hanswer⟩
    · rw [Thread.use_of_build_error hbuild, hnone]
      exact h.refused rfl rfl hevents
    · obtain rfl := Option.some.inj hhook
      rw [Thread.use_of_refused hbuild hadmitted, hnone]
      refine h.refused ?_ ?_ ?_
      · rw [Thread.shown_stack]
      · rw [Thread.shown_refused hanswer]
      · rwa [Thread.shown_reported]
  | ok context =>
    obtain ⟨hbuild, haccepts⟩ := Sources.admitted_eq_ok_iff.mp hadmitted
    obtain ⟨answer, hanswer⟩ := haccepts _ rfl
    have hlevel : ∃ level, Level.parse (context.levelName base) = .ok level := by
      cases hparse : Level.parse (context.levelName base) with
      | ok level => exact ⟨level, rfl⟩
      | error e => simp [Hook.logging, hparse, Except.map] at hanswer
    obtain ⟨level, hlevel⟩ := hlevel
    rw [Thread.use_of_admitted hadmitted]
    refine h.entered hlevel rfl ?_ ?_ ?_
    · simp only [Thread.enter, Thread.report, Thread.shown_stack]
    · simp only [Thread.enter, Thread.report, Journal.report, Thread.shown_logging hlevel]
    · simp only [Thread.enter, Thread.report, Journal.report, Thread.shown_reported]
      refine List.forall_mem_append.mpr ⟨List.forall_mem_append.mpr ⟨hevents, ?_⟩, ?_⟩
      · exact List.forall_mem_singleton.mpr rfl
      · exact List.forall_mem_singleton.mpr rfl

/-- Dropping a guard sets the level to what is then asked for, also if the frame had gone before. -/
theorem AtLevel.leave (hbase : Level.parse base = .ok level) (h : w.AtLevel base) {guard : Guard}
    (hguard : guard ∈ w.guards) (sequence : ℕ) :
    (GuardedThread.mk (w.thread.leave none guard) (guardsWithout w.guards sequence)).AtLevel
      base := by
  -- The hook is told on the stack without the frame, where every context got past the hook.
  have hframes : ∀ f ∈ (w.thread.left guard).stack.frames,
      ∃ level, Level.parse (f.context.levelName base) = .ok level :=
    fun f hf => h.frames f (ContextStack.mem_of_mem_leave hf)
  have hscopes : (w.thread.left guard).stack.scopes = [] :=
    (ContextStack.leave_scopes ..).trans h.scopes
  obtain ⟨seen, hseen⟩ := exists_level hbase hscopes hframes
  have hjournal := Thread.told_logging hseen
  have hstack := (w.thread.left guard).told_stack none (.logging base)
  rw [Thread.leave_eq, h.guards guard hguard, Option.elim_some]
  refine ⟨?_, ?_, ?_, ⟨seen, ?_, ?_⟩, ?_⟩
  · rw [hstack]
    exact hframes
  · rw [hstack]
    exact hscopes
  · exact fun g hg => h.guards g (List.mem_of_mem_filter hg)
  · rw [Thread.levelName_congr hstack]
    exact hseen
  · simp only [hjournal]
    rfl
  · simp only [hjournal]
    exact List.forall_mem_append.mpr ⟨h.reported, List.forall_mem_singleton.mpr rfl⟩

/-- A step that keeps to the logging hook keeps the level in step. -/
theorem AtLevel.move (hbase : Level.parse base = .ok level) (h : w.AtLevel base) {m : Move}
    (hm : m.Logged base) : (w.move m).AtLevel base := by
  cases hm with
  | use sources request => exact h.use sources request
  | drop sequence =>
    simp only [GuardedThread.move]
    cases hguard : guardOf? w.guards sequence with
    | none => exact h
    | some guard => exact h.leave hbase (List.mem_of_find?_eq_some hguard) sequence
  | forget sequence =>
    exact ⟨h.frames, h.scopes, fun g hg => h.guards g (List.mem_of_mem_filter hg), h.level,
      h.reported⟩

/-- Steps that keep to the logging hook keep the level in step. -/
theorem AtLevel.run (hbase : Level.parse base = .ok level) (h : w.AtLevel base)
    {moves : List Move} (hmoves : ∀ m ∈ moves, m.Logged base) : (w.run moves).AtLevel base := by
  induction moves generalizing w with
  | nil => exact h
  | cons m rest ih =>
    obtain ⟨hm, hrest⟩ := List.forall_mem_cons.mp hmoves
    exact ih (h.move hbase hm) hrest

/-- The log level follows the current context. Whatever profiles the code outside tasks uses with
the logging hook of a base level, and in whatever order it drops or forgets the guards: the filter
is at the level that the current context asks for, or at the base level if there is none, and no
hook fails after its frame was left. -/
theorem level_follows_current (hbase : Level.parse base = .ok level) (moves : List Move)
    (hmoves : ∀ m ∈ moves, m.Logged base) :
    let w := (start (some level)).run moves
    (∃ shown, Level.parse (w.thread.levelName base) = .ok shown ∧
        w.thread.journal.filter = some shown) ∧
      ∀ cause, Event.exitHookFailed cause ∉ w.thread.journal.reported := by
  intro w
  have hlevel : w.AtLevel base := (AtLevel.start hbase).run hbase hmoves
  refine ⟨hlevel.level, fun cause hcause => ?_⟩
  have hfailed := hlevel.reported _ hcause
  cases hfailed

/-- A setting for the level, and an environment that asks for more than the base level. -/
def verboseSources : Sources where
  registry := ⟨"", none, [⟨levelSetting, .string, .fixed (.string "WARNING"), .none, [], ""⟩]⟩
  env := .ofList [(levelSetting, "debug")]
  profiles := .empty

/-- The environment asks for one level, overrides on top of that for another, and overrides that
name no level are refused. The first guard takes both frames with it, so that the second finds its
own gone. -/
def verboseMoves : List Move :=
  let asking (inherit : Bool) (name : String) : Move :=
    .use verboseSources none ⟨inherit, none, .ofList [(levelSetting, .string name)]⟩
      (some (.logging "info"))
  [.use verboseSources none {} (some (.logging "info")), asking true "TRACE", asking false "loud",
    .drop none 0, .drop none 1]

/-- The level goes from the base level to that of each context entered, stays where a context is
refused, and is the base level again when nothing is left. -/
theorem level_follows_verboseMoves :
    let w := (start (some .info)).run verboseMoves
    Level.parse "info" = .ok .info ∧ (∀ m ∈ verboseMoves, m.Logged "info") ∧
      (List.range 6).map (fun n =>
        ((start (some .info)).run (verboseMoves.take n)).thread.journal.filter) =
          [some .info, some .debug, some .trace, some .trace, some .info, some .info] ∧
      (∃ shown, Level.parse (w.thread.levelName "info") = .ok shown ∧
        w.thread.journal.filter = some shown) ∧
      ∀ cause, Event.exitHookFailed cause ∉ w.thread.journal.reported := by
  intro w
  have hbase : Level.parse "info" = .ok .info := by decide +kernel
  have hlogged : ∀ m ∈ verboseMoves, m.Logged "info" := by
    simp only [verboseMoves, List.forall_mem_cons]
    exact ⟨.use _ _, .use _ _, .use _ _, .drop 0, .drop 1, by rintro m ⟨⟩⟩
  have hfilters : (List.range 6).map (fun n =>
      ((start (some .info)).run (verboseMoves.take n)).thread.journal.filter) =
        [some .info, some .debug, some .trace, some .trace, some .info, some .info] := by
    decide +kernel
  exact ⟨hbase, hlogged, hfilters, level_follows_current hbase verboseMoves hlogged⟩

end GuardedThread

end LayeredSettings
