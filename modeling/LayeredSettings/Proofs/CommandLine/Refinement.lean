import LayeredSettings.CommandLine.Program
import LayeredSettings.Proofs.CommandLine.Outcome

/-!
# Calls of the program refine operations on the collection

The program is called again and again, each time with a command line and a session of its own, on
one profiles file. Where the file system does not fail and documents can be read back, the file
holds at any time what the operations of the calls so far make of the collection that it held at
first. A call that is not done leaves the file as it was, and a file that holds no collection is
left alone by every call.
-/

namespace LayeredSettings.CommandLine

/-- A call of the program: the session it is made in, the hook that goes with the context, the
thread, the profile that the environment names, and the words. -/
structure Call where
  session : Session
  hook : Option Hook
  thread : Thread
  named : Option String
  words : List String

namespace Call

/-- What the words of a call ask for. -/
def invocation (call : Call) : Except UsageFault Invocation :=
  Invocation.ofWords call.named call.words

/-- The exit code of a call, and the files that it leaves. -/
def run (call : Call) (files : Files) : ℕ × Files :=
  match call.invocation with
  | .error fault => (fault.exitCode, files)
  | .ok i =>
    let (result, desk) :=
      CommandLine.run call.session call.hook i.command { files, thread := call.thread }
    (exitCode result, desk.files)

/-- The collection that stands after a call where another one stood before: the one that its command
makes of it, or the same if the command fails or the words name none. -/
def collectionAfter (call : Call) (c : Collection) : Collection :=
  match call.invocation with
  | .error _ => c
  | .ok i => (i.command.apply call.session c).toOption.getD c

/-- Nothing stands in the way of a call on the file at a place. -/
structure Unhindered (call : Call) (files : Files) (place : Location) : Prop where
  /-- The path of the session leads to the file if it is there. -/
  readable : Store.Readable files call.session.path place
  /-- A command that changes profiles can take the lock and replace the file. -/
  writable : ∀ i, call.invocation = .ok i → i.command.changes →
    Store.Writable files call.session.path place
  /-- The document that is written can be read back. -/
  readsBack : ∀ i c changed, call.invocation = .ok i → i.command.changes →
    Store.held? files place = some c → i.command.apply call.session c = .ok changed →
      changed.toDocument.ReadsBack

/-- A call on the file at a place does what its command does to the collection in it. -/
structure Refines (call : Call) (files : Files) (place : Location) : Prop where
  /-- Words that name no command end with their own exit code and change no file. They fail unless
  they ask for help or the version. -/
  usage : ∀ fault, call.invocation = .error fault → call.run files = (fault.exitCode, files) ∧
    (fault.exitCode = doneCode ↔ fault = .version ∨ ∃ place, fault = .help place)
  /-- While the file holds no collection every command is refused, and changes no file. -/
  refused : ∀ i, call.invocation = .ok i → Store.held? files place = none →
    (call.run files).1 ≠ doneCode ∧ (call.run files).2 = files
  /-- A command that changes profiles loads what the file holds. -/
  loads : ∀ i c, call.invocation = .ok i → i.command.changes →
    (Store.loadFrom files call.session.path = .ok c ↔ Store.held? files place = some c)
  /-- It is done exactly if its operation succeeds. -/
  done_iff : ∀ i c, call.invocation = .ok i → i.command.changes →
    Store.held? files place = some c →
      ((call.run files).1 = doneCode ↔ ∃ changed, i.command.apply call.session c = .ok changed)
  /-- The collection that its operation gives is then loaded from the file. -/
  stored : ∀ i c changed, call.invocation = .ok i → i.command.changes →
    Store.held? files place = some c → i.command.apply call.session c = .ok changed →
      Store.loadFrom (call.run files).2 call.session.path = .ok changed
  /-- A command that changes no profiles changes no file. -/
  shown : ∀ i, call.invocation = .ok i → i.command.changes = false → (call.run files).2 = files
  /-- A call that is not done leaves the file as it was, or missing. -/
  kept : (call.run files).1 ≠ doneCode → (call.run files).2.get? place = files.get? place

end Call

/-- The files after some calls, one after another. -/
def filesAfter (start : Files) (calls : List Call) : Files :=
  calls.foldl (fun files call => (call.run files).2) start

/-- The collection after some calls, one after another. -/
def collectionAfter (c : Collection) (calls : List Call) : Collection :=
  calls.foldl (fun c call => call.collectionAfter c) c

namespace Call

variable {call : Call} {files : Files} {place : Location} {i : Invocation}

/-- Words that name no command change no file. -/
theorem run_of_usage {fault : UsageFault} (hwords : call.invocation = .error fault) :
    call.run files = (fault.exitCode, files) := by
  unfold run
  rw [hwords]

/-- Asking for help or the version is all that is done without a command. -/
theorem exitCode_eq_doneCode_iff (fault : UsageFault) :
    fault.exitCode = doneCode ↔ fault = .version ∨ ∃ place, fault = .help place := by
  cases fault <;> simp [UsageFault.exitCode, doneCode]

/-- The desk at which a call is made. -/
def desk (call : Call) (files : Files) : Desk := { files, thread := call.thread }

/-- The outcome of a call. -/
def outcome (call : Call) (i : Invocation) (files : Files) : Bool × Files :=
  (CommandLine.run call.session call.hook i.command).outcome (call.desk files)

/-- A call whose words name a command is done exactly if the run of the command is. -/
theorem run_eq_doneCode_iff (hwords : call.invocation = .ok i) :
    (call.run files).1 = doneCode ↔ (call.outcome i files).1 = true := by
  unfold run outcome Work.outcome
  rw [hwords]
  exact beq_iff_eq.symm

/-- A call whose words name a command leaves the files that the run of the command leaves. -/
theorem files_run (hwords : call.invocation = .ok i) :
    (call.run files).2 = (call.outcome i files).2 := by
  unfold run
  rw [hwords]
  rfl

/-- A command that changes no profiles changes no file. -/
theorem run_of_shows (hwords : call.invocation = .ok i) (hshows : i.command.changes = false) :
    (call.run files).2 = files := by
  rw [files_run hwords]
  exact files_outcome_run hshows

namespace Unhindered

variable (h : call.Unhindered files place) (hwords : call.invocation = .ok i)
include h hwords

/-- While the file holds no collection every command is refused, and changes no file. -/
theorem run_of_held?_eq_none (hnone : Store.held? files place = none) :
    (call.run files).1 ≠ doneCode ∧ (call.run files).2 = files := by
  obtain ⟨e, hload⟩ := Store.loadFrom_of_held?_eq_none h.readable hnone
  have houtcome : call.outcome i files = (false, files) := outcome_run_of_error hload
  constructor
  · rw [Ne, run_eq_doneCode_iff hwords, houtcome]
    exact Bool.false_ne_true
  · rw [files_run hwords, houtcome]

variable {c : Collection} (hchanges : i.command.changes)
  (hheld : Store.held? files place = some c)
include hchanges hheld

/-- A command that changes profiles loads what the file holds. -/
theorem loadFrom_eq : Store.loadFrom files call.session.path = .ok c :=
  (h.writable i hwords hchanges).loadFrom_eq h.readable hheld

/-- A command that changes profiles has the outcome that its operation asks for. -/
private theorem stores :
    (CommandLine.run call.session call.hook i.command).Stores call.session.path place
      (call.desk files) (i.command.apply call.session c) :=
  stores_run hchanges h.readable (h.writable i hwords hchanges) hheld

/-- A command whose operation fails is not done, and leaves the file as it was. -/
theorem run_of_error {e : SettingsError} (happly : i.command.apply call.session c = .error e) :
    (call.run files).1 ≠ doneCode ∧ (call.run files).2.get? place = files.get? place := by
  have hstores := h.stores hwords hchanges hheld
  rw [happly] at hstores
  obtain ⟨hdone, hget⟩ := hstores
  constructor
  · rw [Ne, run_eq_doneCode_iff hwords]
    exact ne_true_of_eq_false hdone
  · rw [files_run hwords]
    exact hget

/-- A command whose operation succeeds is done, and the changed collection is held and loaded. -/
theorem run_of_ok {changed : Collection} (happly : i.command.apply call.session c = .ok changed) :
    (call.run files).1 = doneCode ∧ Store.held? (call.run files).2 place = some changed ∧
      Store.loadFrom (call.run files).2 call.session.path = .ok changed := by
  have hstores := h.stores hwords hchanges hheld
  rw [happly] at hstores
  obtain ⟨hdone, hplace, hget⟩ := hstores
  have hformed := Command.wellFormed_of_apply (Store.wellFormed_of_held? hheld) happly
  have hparse := hformed.parse_render (h.readsBack i c changed hwords hchanges hheld happly)
  have hholds : Store.held? (call.run files).2 place = some changed := by
    refine Store.held?_of_parse ?_ hparse
    rw [files_run hwords]
    exact hget
  refine ⟨(run_eq_doneCode_iff hwords).mpr hdone, hholds, ?_⟩
  refine (Store.loadFrom_eq_ok_iff ?_).mpr hholds
  rw [files_run hwords]
  exact hplace

end Unhindered

/-- A call that nothing stands in the way of does what its command does to the collection. -/
theorem Unhindered.refines (h : call.Unhindered files place) : call.Refines files place where
  usage fault hwords := ⟨run_of_usage hwords, exitCode_eq_doneCode_iff fault⟩
  refused i hwords hnone := h.run_of_held?_eq_none hwords hnone
  loads i c hwords hchanges := by
    constructor
    · intro hload
      cases hheld : Store.held? files place with
      | none =>
        obtain ⟨e, herror⟩ := Store.loadFrom_of_held?_eq_none h.readable hheld
        cases herror.symm.trans hload
      | some held =>
        cases (h.loadFrom_eq hwords hchanges hheld).symm.trans hload
        rfl
    · exact h.loadFrom_eq hwords hchanges
  done_iff i c hwords hchanges hheld := by
    cases happly : i.command.apply call.session c with
    | error e =>
      have hfailed := (h.run_of_error hwords hchanges hheld happly).1
      constructor
      · intro hdone
        exact absurd hdone hfailed
      · rintro ⟨changed, hok⟩
        cases hok
    | ok changed =>
      constructor
      · intro _
        exact ⟨changed, rfl⟩
      · intro _
        exact (h.run_of_ok hwords hchanges hheld happly).1
  stored i c changed hwords hchanges hheld happly :=
    (h.run_of_ok hwords hchanges hheld happly).2.2
  shown i hwords hshows := run_of_shows hwords hshows
  kept hfailed := by
    cases hwords : call.invocation with
    | error fault => rw [run_of_usage hwords]
    | ok i =>
      cases hchanges : i.command.changes with
      | false => rw [run_of_shows hwords hchanges]
      | true =>
        cases hheld : Store.held? files place with
        | none => rw [(h.run_of_held?_eq_none hwords hheld).2]
        | some c =>
          cases happly : i.command.apply call.session c with
          | error e => exact (h.run_of_error hwords hchanges hheld happly).2
          | ok changed => exact absurd (h.run_of_ok hwords hchanges hheld happly).1 hfailed

/-- A call turns the collection that the file holds into the one that its command makes of it. -/
theorem Unhindered.held?_run (h : call.Unhindered files place) :
    Store.held? (call.run files).2 place =
      (Store.held? files place).map call.collectionAfter := by
  unfold collectionAfter
  cases hwords : call.invocation with
  | error fault => rw [run_of_usage hwords, Option.map_id']
  | ok i =>
    dsimp only
    cases hheld : Store.held? files place with
    | none => rw [(h.run_of_held?_eq_none hwords hheld).2, hheld, Option.map_none]
    | some c =>
      rw [Option.map_some]
      cases hchanges : i.command.changes with
      | false =>
        rw [run_of_shows hwords hchanges, hheld, Command.apply_of_shows hchanges]
        rfl
      | true =>
        cases happly : i.command.apply call.session c with
        | error e =>
          rw [Store.held?_congr (h.run_of_error hwords hchanges hheld happly).2, hheld]
          rfl
        | ok changed =>
          rw [(h.run_of_ok hwords hchanges hheld happly).2.1]
          rfl

end Call

/-- A run of the whole program on words, with logging set up and in the session that the environment
tells of, is a call. -/
theorem exists_run_eq_runWords {env : Environment} {files : Files} {words : List String}
    {i : Invocation} {state : LogState} {session : Session}
    (hwords : Invocation.ofWords (env.get? profileVariable) words = .ok i)
    (hlog : LogState.absent.setUp i.baseLevel (env.get? levelVariable) = .ok state)
    (hsession : Session.discover (.builtin (homeOf env)) (env.withPrefix builtinPrefix) i.profile =
      .ok session) :
    ∃ call : Call, call.session = session ∧ call.invocation = .ok i ∧
      call.run files = ((runWords env files words).exitCode, (runWords env files words).files) := by
  let thread := ((Thread.start state.filter).report [.loggingReady, .started]).report
    (Session.discoverEvents (.builtin (homeOf env)) (env.withPrefix builtinPrefix))
  let call : Call :=
    ⟨session, i.hook (env.get? levelVariable), thread, env.get? profileVariable, words⟩
  refine ⟨call, rfl, hwords, ?_⟩
  have hran : (do
      Work.report [.loggingReady, .started]
      i.run (.builtin (homeOf env)) (env.withPrefix builtinPrefix)
        (env.get? levelVariable) : Work ℕ)
        { files, thread := .start state.filter } =
      CommandLine.run session call.hook i.command (call.desk files) := by
    refine (run_bind_of_ok rfl).trans ((run_bind_of_ok rfl).trans (run_bind_of_ok ?_))
    rw [hsession]
    rfl
  have hinvocation : call.invocation = .ok i := hwords
  unfold Call.run runWords
  rw [hinvocation, hwords]
  dsimp only
  rw [hlog]
  dsimp only
  unfold Invocation.ending
  dsimp only
  rw [hran]
  change (exitCode (CommandLine.run session call.hook i.command (call.desk files)).1,
    (CommandLine.run session call.hook i.command (call.desk files)).2.files) = _
  cases CommandLine.run session call.hook i.command (call.desk files) with
  | mk result left => cases result <;> rfl

variable {start : Files} {place : Location} {calls : List Call}

/-- Nothing stands in the way of any of some calls, each made on the files that those before it
left. -/
def Unhindered (start : Files) (place : Location) (calls : List Call) : Prop :=
  ∀ earlier call later, calls = earlier ++ call :: later →
    call.Unhindered (filesAfter start earlier) place

/-- After some calls the file holds what they make of the collection that it held at first. -/
theorem held?_filesAfter (h : Unhindered start place calls) :
    Store.held? (filesAfter start calls) place =
      (Store.held? start place).map (collectionAfter · calls) := by
  induction calls generalizing start with
  | nil => exact Option.map_id'.symm
  | cons call rest ih =>
    have hcall : call.Unhindered start place := h [] call rest rfl
    have hrest : Unhindered (call.run start).2 place rest := by
      rintro earlier next later rfl
      exact h (call :: earlier) next later rfl
    have hheld := ih hrest
    rw [hcall.held?_run, Option.map_map] at hheld
    exact hheld

/-- Calls of the program on the file at a place refine operations on the collection that it holds.
-/
theorem calls_refine_operations (h : Unhindered start place calls) :
    (∀ earlier later, calls = earlier ++ later →
      Store.held? (filesAfter start earlier) place =
        (Store.held? start place).map (collectionAfter · earlier)) ∧
    ∀ earlier call later, calls = earlier ++ call :: later →
      call.Refines (filesAfter start earlier) place := by
  constructor
  · rintro earlier later rfl
    refine held?_filesAfter fun before call after hsplit => ?_
    refine h before call (after ++ later) ?_
    rw [hsplit, List.append_assoc, List.cons_append]
  · intro earlier call later hsplit
    exact (h earlier call later hsplit).refines

/-- The keys, the active name and the profile names of a table with two empty profiles. -/
private def textsOfTwoEmpty : Option Toml.Table → Option (List String)
  | some [(k, .string a), (l, .table [(n, .table []), (m, .table [])])] => some [k, a, l, n, m]
  | _ => none

/-- A profile is created where the file is missing; then the active profile cannot be deleted, and
the file stays. -/
theorem calls_refine_operations_of_creation :
    ∃ start place create delete changed, Unhindered start place [create, delete] ∧
      Store.held? start place = some .withDefault ∧ changed.names = ["default", "work"] ∧
      (create.run start).1 = doneCode ∧
      Store.loadFrom (filesAfter start [create]) create.session.path = .ok changed ∧
      (delete.run (filesAfter start [create])).1 ≠ doneCode ∧
      Store.held? (filesAfter start [create, delete]) place = some changed := by
  let start : Files := ⟨[], []⟩
  let place : Location := ["profiles.toml"]
  let session : Session := ⟨⟨"", none, []⟩, .empty, ⟨"profiles.toml"⟩, none⟩
  let create : Call := ⟨session, none, .start none, none, ["profile", "create", "work"]⟩
  let delete : Call := ⟨session, none, .start none, none, ["profile", "delete", "default"]⟩
  let changed : Collection :=
    ⟨[.named Collection.defaultName, .named ⟨"work", by decide⟩], some Collection.defaultName⟩
  let locked : Files := ⟨[], [(["profiles.toml.lock"], .file (.text ""))]⟩
  have hcreate : create.invocation = .ok ⟨none, none, false, .create "work" none⟩ := by
    decide +kernel
  have hdelete : delete.invocation = .ok ⟨none, none, false, .delete "default"⟩ := by
    decide +kernel
  have hchanged : (Command.create "work" none).apply session .withDefault = .ok changed := by
    decide +kernel
  have hrefused : (Command.delete "default").apply session changed =
    .error (.activeProfile "default") := by decide +kernel
  have hreads : changed.toDocument.ReadsBack := by
    have htexts : textsOfTwoEmpty (Toml.read? changed.render) =
        some ["active", "default", "profiles", "default", "work"] := by decide +kernel
    unfold textsOfTwoEmpty at htexts
    split at htexts
    · next hread =>
      cases htexts
      exact ⟨_, hread, rfl⟩
    · cases htexts
  have hleft : (create.run start).2 = locked.put place (.file (.text changed.render)) := by
    decide +kernel
  have hwritable : Store.Writable start session.path place := by
    have hmoved : (Store.takeLock session.path start).2.moveInto session.path "" =
      .ok (locked.put place (.file (.text ""))) := by decide +kernel
    exact ⟨by decide +kernel, by decide +kernel, Files.exists_moveInto hmoved⟩
  have hwritableLeft : Store.Writable (create.run start).2 session.path place := by
    have hmoved : (Store.takeLock session.path (create.run start).2).2.moveInto session.path "" =
      .ok (locked.put place (.file (.text ""))) := by decide +kernel
    exact ⟨by decide +kernel, by decide +kernel, Files.exists_moveInto hmoved⟩
  have hheld : Store.held? (filesAfter start [create]) place = some changed := by
    change Store.held? (create.run start).2 place = some changed
    rw [hleft]
    decide +kernel
  have hfree : Unhindered start place [create, delete] := by
    intro earlier call later hsplit
    obtain _ | ⟨first, _ | ⟨second, rest⟩⟩ := earlier
    · cases hsplit
      constructor
      · intro hthere
        exact absurd rfl hthere
      · intro i hwords hchanges
        exact hwritable
      · intro i c made hwords hchanges hstart happly
        cases hwords.symm.trans hcreate
        cases hstart
        cases happly.symm.trans hchanged
        exact hreads
    · cases hsplit
      change delete.Unhindered (create.run start).2 place
      constructor
      · intro hthere
        decide +kernel
      · intro i hwords hchanges
        exact hwritableLeft
      · intro i c made hwords hchanges hcreated happly
        cases hwords.symm.trans hdelete
        cases hcreated.symm.trans hheld
        cases happly.symm.trans hrefused
    · simp at hsplit
  obtain ⟨hafter, hrefines⟩ := calls_refine_operations hfree
  have hfirst := hrefines [] create [delete] rfl
  have hsecond := hrefines [create] delete [] rfl
  refine ⟨start, place, create, delete, changed, hfree, rfl, rfl, ?_, ?_, ?_, ?_⟩
  · exact (hfirst.done_iff _ _ hcreate rfl rfl).mpr ⟨changed, hchanged⟩
  · exact hfirst.stored _ _ changed hcreate rfl rfl hchanged
  · intro hdone
    obtain ⟨made, hmade⟩ := (hsecond.done_iff _ _ hdelete rfl hheld).mp hdone
    cases hmade.symm.trans hrefused
  · rw [hafter [create, delete] [] rfl]
    decide +kernel

end LayeredSettings.CommandLine
