import LayeredSettings.CommandLine.Run
import LayeredSettings.Proofs.Profile.Operations
import LayeredSettings.Proofs.Store.Access

/-!
# The outcome of a command

The outcome of work is whether it is done, and the files that it leaves. Commands that only show
something leave all files as they are. A command that changes profiles updates the profiles file by
an operation on the collection in it, and tells of it only once the file is written: so it is done
exactly if the operation succeeds.
-/

namespace LayeredSettings.CommandLine

/-- The exit code of work that has ended. -/
def exitCode : Except SettingsError ℕ → ℕ
  | .ok code => code
  | .error _ => failedCode

namespace Work

variable {α β : Type} {desk : Desk}

/-- Work leaves all files as they are. -/
def Keeps (work : Work α) : Prop := ∀ desk, (work desk).2.files = desk.files

/-- Work that does nothing leaves all files as they are. -/
theorem keeps_pure (a : α) : Keeps (pure a) := fun _ => rfl

/-- Going on with a result leaves all files as they are. -/
theorem keeps_ofExcept (result : Except SettingsError α) : Keeps (ofExcept result) := fun _ => rfl

/-- Printing leaves all files as they are. -/
theorem keeps_print (lines : List String) : Keeps (print lines) := fun _ => rfl

/-- Work in steps that leave all files as they are leaves them so. -/
theorem Keeps.bind {work : Work α} {rest : α → Work β} (hwork : Keeps work)
    (hrest : ∀ a, Keeps (rest a)) : Keeps (work >>= rest) := by
  intro desk
  have hkept := hwork desk
  cases hran : work desk with
  | mk result left =>
    rw [hran] at hkept
    cases result with
    | error e => rw [run_bind_of_error hran, hkept]
    | ok a => rw [run_bind_of_ok hran, hrest a left, hkept]

/-- Work on the files that is told of in events does what it does on the files alone. -/
private theorem report_onFiles (events : Files → List Event) (work : FileWork α) (desk : Desk) :
    ∃ left, (do report (events (← get).files); onFiles work : Work α) desk =
      ((work desk.files).1, left) ∧ left.files = (work desk.files).2 :=
  ⟨_, rfl, rfl⟩

/-- Loading the profiles gives what the profiles file holds. -/
theorem profiles_eq (session : Session) (desk : Desk) : ∃ left,
    profiles session desk = (Store.loadFrom desk.files session.path, left) ∧
      left.files = desk.files :=
  report_onFiles (Store.loadEvents · session.path) (Store.load session.path) desk

/-- An update of the profiles file does to the files what the store does. -/
theorem update_eq (session : Session) (change : Collection → Except SettingsError (α × Collection))
    (events : Collection → List Event) (desk : Desk) : ∃ left,
    update session change events desk =
      ((Store.update session.path change desk.files).1, left) ∧
        left.files = (Store.update session.path change desk.files).2 :=
  report_onFiles (Store.updateEvents session.path change events) (Store.update session.path change)
    desk

/-- Loading the profiles leaves all files as they are. -/
theorem keeps_profiles (session : Session) : Keeps (profiles session) := fun _ => rfl

/-- Asking for the current context leaves all files as they are. -/
theorem keeps_context : Keeps context := fun _ => rfl

/-- Entering a context gives a guard, or the error that there is none. -/
theorem enter_eq (session : Session) (c : Collection) (hook : Option Hook) (desk : Desk) :
    ∃ result left, enter session c hook desk = (.ok result, left) ∧ left.files = desk.files :=
  ⟨_, _, rfl, rfl⟩

/-- Whether work is done, and the files that it leaves. -/
def outcome (work : Work ℕ) (desk : Desk) : Bool × Files :=
  (exitCode (work desk).1 == doneCode, (work desk).2.files)

/-- Work that ends with an error is not done. -/
theorem outcome_of_error {work : Work ℕ} {e : SettingsError} {left : Desk}
    (hran : work desk = (.error e, left)) : work.outcome desk = (false, left.files) := by
  unfold outcome
  rw [hran]
  rfl

/-- After a step that succeeds, the outcome is that of the rest. -/
theorem outcome_bind {work : Work α} {rest : α → Work ℕ} {a : α} {left : Desk}
    (hran : work desk = (.ok a, left)) : (work >>= rest).outcome desk = (rest a).outcome left := by
  unfold outcome
  rw [run_bind_of_ok hran]

/-- A step that fails ends the work. -/
theorem outcome_bind_of_error {work : Work α} {rest : α → Work ℕ} {e : SettingsError} {left : Desk}
    (hran : work desk = (.error e, left)) : (work >>= rest).outcome desk = (false, left.files) :=
  outcome_of_error (run_bind_of_error hran)

/-- Work that tells the user of an error is as much done as it was before. -/
theorem outcome_rejecting (work : Work ℕ) (desk : Desk) :
    (rejecting work).outcome desk = work.outcome desk := by
  unfold outcome rejecting
  cases hran : work desk with
  | mk result left =>
    cases result with
    | ok code => rfl
    | error e =>
      dsimp only
      split <;> rfl

/-- Work under a guard has the outcome of the work. -/
theorem outcome_under (guard : Guard) (work : Work ℕ) (desk : Desk) :
    (under guard work).outcome desk = work.outcome desk := rfl

end Work

/-- The command changes the profiles. -/
def Command.changes : Command → Bool
  | view _ | list | inspect .. => false
  | _ => true

/-- A command that reads the settings does not change the profiles. -/
theorem Command.changes_of_readsSettings {command : Command} (hreads : command.readsSettings) :
    command.changes = false := by
  cases command with
  | view options => rfl
  | _ => cases hreads

/-- The operation that a command asks for on a collection, if it changes the profiles. What the
command is given may not make an operation. -/
def Command.operation (session : Session) (c : Collection) :
    Command → Except SettingsError (Option Operation)
  | set assignments =>
    return some (.update session.registry (session.targetProfile c)
      (← assignments.mapM assignment) [])
  | unset keys => return some (.update session.registry (session.targetProfile c) [] keys)
  | create name none => return some (.addChecked session.registry (← Profile.new name))
  | create name (some source) =>
    return some (.copyChecked session.registry (← c.require source) name)
  | activate name => return some (.setActive (some name))
  | delete name => return some (.remove name)
  | rename old new => return some (.rename old new)
  | view _ | list | inspect .. => return none

/-- The collection that a command turns a collection into. -/
def Command.apply (session : Session) (c : Collection) (command : Command) :
    Except SettingsError Collection := do
  match ← command.operation session c with
  | some operation => operation.apply c
  | none => return c

/-- A command that does not change the profiles leaves a collection as it is. -/
theorem Command.apply_of_shows {session : Session} {c : Collection} {command : Command}
    (hshows : command.changes = false) : command.apply session c = .ok c := by
  cases command with
  | view options => rfl
  | list => rfl
  | inspect name format reveal => rfl
  | _ => cases hshows

/-- A command keeps a collection well-formed. -/
theorem Command.wellFormed_of_apply {session : Session} {c changed : Collection} {command : Command}
    (h : c.WellFormed) (hok : command.apply session c = .ok changed) : changed.WellFormed := by
  obtain ⟨asked, -, hok⟩ := bind_eq_ok hok
  cases asked with
  | none =>
    cases hok
    exact h
  | some operation => exact operation.wellFormed_of_apply h hok

section Change

variable {session : Session} {desk : Desk} {place : Location} {c : Collection}

/-- Work has the outcome that a changed collection asks for: the work is done and the collection is
in the file, or the change failed and the file is as it was. -/
def Work.Stores (work : Work ℕ) (p : Path) (place : Location) (desk : Desk) :
    Except SettingsError Collection → Prop
  | .ok changed =>
    (work.outcome desk).1 = true ∧ (work.outcome desk).2.locate p = .ok place ∧
      (work.outcome desk).2.get? place = some (.file (.text changed.render))
  | .error _ =>
    (work.outcome desk).1 = false ∧ (work.outcome desk).2.get? place = desk.files.get? place

/-- Work with one outcome stores alike. -/
theorem Work.Stores.congr {work other : Work ℕ} {p : Path} {later : Desk}
    {changed : Except SettingsError Collection} (hstores : other.Stores p place later changed)
    (houtcome : work.outcome desk = other.outcome later) (hfiles : later.files = desk.files) :
    work.Stores p place desk changed := by
  unfold Work.Stores at *
  rw [houtcome, ← hfiles]
  exact hstores

/-- An update followed by work that is done has the outcome that the change asks for. -/
theorem Work.stores_update {α : Type} {change : Collection → Except SettingsError (α × Collection)}
    {events : Collection → List Event} {rest : α → Work ℕ}
    (hwritable : Store.Writable desk.files session.path place)
    (hheld : Store.held? desk.files place = some c)
    (hrest : ∀ a later, (rest a).outcome later = (true, later.files)) :
    (update session change events >>= rest).Stores session.path place desk
      ((change c).map (·.2)) := by
  obtain ⟨left, hran, hfiles⟩ := update_eq session change events desk
  cases hchange : change c with
  | error e =>
    obtain ⟨later, hupdate, hkept⟩ := hwritable.update_of_error hheld hchange
    rw [hupdate] at hran hfiles
    have houtcome : (update session change events >>= rest).outcome desk = (false, left.files) :=
      outcome_bind_of_error hran
    refine ⟨?_, ?_⟩
    · rw [houtcome]
    · rw [houtcome, hfiles, hkept]
  | ok changed =>
    obtain ⟨result, changed⟩ := changed
    obtain ⟨later, hupdate, hplace, hget⟩ := hwritable.update_of_ok hheld hchange
    rw [hupdate] at hran hfiles
    have houtcome : (update session change events >>= rest).outcome desk = (true, left.files) :=
      (outcome_bind hran).trans (hrest result left)
    refine ⟨?_, ?_, ?_⟩
    · rw [houtcome]
    · rw [houtcome, hfiles, hplace]
    · rw [houtcome, hfiles, hget]

/-- A change of the profiles has the outcome that the change asks for. -/
theorem stores_changeProfiles {line : String}
    {change : Collection → Except SettingsError Collection}
    (hwritable : Store.Writable desk.files session.path place)
    (hheld : Store.held? desk.files place = some c) :
    (changeProfiles session line change).Stores session.path place desk (change c) := by
  have hsame : change c = Except.map (·.2) (do return ((), ← change c)) := by
    cases change c <;> rfl
  rw [hsame]
  exact Work.stores_update hwritable hheld fun _ _ => rfl

/-- What an update of the target profile makes of a collection. -/
private theorem map_updateTarget (sets : List (String × Raw)) (unsets : List String) :
    (updateTarget session sets unsets c).map (·.2) =
      (Operation.update session.registry (session.targetProfile c) sets unsets).apply c := by
  unfold updateTarget Operation.apply
  dsimp only
  cases c.update session.registry (session.targetProfile c) sets unsets <;> rfl

/-- Assignments that can be read make one update of the target profile. -/
private theorem apply_set (assignments : List String) :
    (Command.set assignments).apply session c = (do
      let sets ← assignments.mapM assignment
      (updateTarget session sets [] c).map (·.2)) := by
  unfold Command.apply Command.operation
  dsimp only
  cases assignments.mapM assignment with
  | error e => rfl
  | ok sets => exact (map_updateTarget sets []).symm

/-- A new profile is one that is added or copied. -/
private theorem withNewProfile_eq (name : String) (copied : Option String) :
    withNewProfile session.registry c name copied =
      (Command.create name copied).apply session c := by
  unfold withNewProfile Command.apply Command.operation
  cases copied with
  | none =>
    dsimp only
    cases Profile.new name <;> rfl
  | some source =>
    dsimp only
    cases c.require source <;> rfl

/-- A command that changes the profiles has the outcome that its operation asks for. -/
theorem Command.stores_perform {command : Command} (hchanges : command.changes)
    (hwritable : Store.Writable desk.files session.path place)
    (hheld : Store.held? desk.files place = some c) :
    (command.perform session).Stores session.path place desk (command.apply session c) := by
  cases command with
  | set assignments =>
    rw [apply_set, perform]
    cases hparse : assignments.mapM assignment with
    | error e =>
      have houtcome : (setSettings session assignments).outcome desk = (false, desk.files) :=
        Work.outcome_bind_of_error (by rw [hparse]; rfl)
      refine ⟨?_, ?_⟩
      · rw [houtcome]
      · rw [houtcome]
    | ok sets =>
      have hstores : (updateSettings session sets [] >>= fun told => (do
          Work.print (setLines session told.1 told.2.set)
          Work.report [.profileChanged]
          return doneCode)).Stores session.path place desk
            ((updateTarget session sets [] c).map (·.2)) :=
        Work.stores_update hwritable hheld fun _ _ => rfl
      exact hstores.congr (Work.outcome_bind (by rw [hparse]; rfl)) rfl
  | unset keys =>
    have happly : (Command.unset keys).apply session c =
        (updateTarget session [] keys c).map (·.2) := (map_updateTarget [] keys).symm
    rw [happly]
    exact Work.stores_update hwritable hheld fun _ _ => rfl
  | create name copied =>
    rw [← withNewProfile_eq]
    exact stores_changeProfiles hwritable hheld
  | activate name => exact stores_changeProfiles hwritable hheld
  | delete name => exact stores_changeProfiles hwritable hheld
  | rename old new => exact stores_changeProfiles hwritable hheld
  | view options => cases hchanges
  | list => cases hchanges
  | inspect name format reveal => cases hchanges

/-- A command that does not change the profiles leaves all files as they are. -/
theorem Command.keeps_perform {command : Command} (hshows : command.changes = false) :
    (command.perform session).Keeps := by
  cases command with
  | view options =>
    exact Work.keeps_context.bind fun context =>
      (Work.keeps_print _).bind fun _ => Work.keeps_pure doneCode
  | list =>
    exact (Work.keeps_profiles session).bind fun c =>
      (Work.keeps_print _).bind fun _ => Work.keeps_pure doneCode
  | inspect name format reveal =>
    exact (Work.keeps_profiles session).bind fun c =>
      (Work.keeps_ofExcept _).bind fun p =>
        (Work.keeps_print _).bind fun _ => Work.keeps_pure doneCode
  | set assignments => cases hshows
  | unset keys => cases hshows
  | create name copied => cases hshows
  | activate name => cases hshows
  | delete name => cases hshows
  | rename old new => cases hshows

end Change

section Run

variable {session : Session} {hook : Option Hook} {command : Command} {desk : Desk}

/-- Where the profiles cannot be loaded, a run of a command is not done and leaves all files. -/
theorem outcome_run_of_error {e : SettingsError}
    (hload : Store.loadFrom desk.files session.path = .error e) :
    (run session hook command).outcome desk = (false, desk.files) := by
  obtain ⟨left, hloaded, hfiles⟩ := Work.profiles_eq session desk
  rw [hload] at hloaded
  unfold run
  rw [Work.outcome_rejecting, Work.outcome_bind_of_error hloaded, hfiles]

/-- Where the profiles can be loaded, a run of a command has the outcome of the command, unless that
reads settings and these cannot be resolved. -/
theorem outcome_run_of_ok {c : Collection}
    (hload : Store.loadFrom desk.files session.path = .ok c) :
    command.readsSettings ∧ (run session hook command).outcome desk = (false, desk.files) ∨
      ∃ later, later.files = desk.files ∧
        (run session hook command).outcome desk = (command.perform session).outcome later := by
  obtain ⟨loaded, hloaded, hloadedfiles⟩ := Work.profiles_eq session desk
  rw [hload] at hloaded
  obtain ⟨result, entered, hentered, hfiles⟩ := Work.enter_eq session c hook loaded
  rw [hloadedfiles] at hfiles
  unfold run
  rw [Work.outcome_rejecting, Work.outcome_bind hloaded, Work.outcome_bind hentered]
  cases result with
  | ok guard =>
    refine Or.inr ⟨entered, hfiles, ?_⟩
    rw [Work.outcome_under, Work.outcome_rejecting]
  | error e =>
    dsimp only
    split
    · next hreads =>
      refine Or.inl ⟨hreads, ?_⟩
      rw [← hfiles]
      rfl
    · exact Or.inr ⟨{ entered with thread := entered.thread.report [.settingsUnresolved e] },
        hfiles, Work.outcome_bind rfl⟩

/-- A run of a command that changes no profiles leaves all files as they are. -/
theorem files_outcome_run (hshows : command.changes = false) :
    ((run session hook command).outcome desk).2 = desk.files := by
  cases hload : Store.loadFrom desk.files session.path with
  | error e => rw [outcome_run_of_error hload]
  | ok c =>
    obtain ⟨-, houtcome⟩ | ⟨later, hfiles, houtcome⟩ := outcome_run_of_ok hload
    · rw [houtcome]
    · rw [houtcome, ← hfiles]
      exact Command.keeps_perform hshows later

/-- A run of a command that changes profiles has the outcome that its operation asks for. -/
theorem stores_run {place : Location} {c : Collection} (hchanges : command.changes)
    (hreads : Store.Readable desk.files session.path place)
    (hwritable : Store.Writable desk.files session.path place)
    (hheld : Store.held? desk.files place = some c) :
    (run session hook command).Stores session.path place desk (command.apply session c) := by
  obtain ⟨hsettings, -⟩ | ⟨later, hfiles, houtcome⟩ :=
    outcome_run_of_ok (hwritable.loadFrom_eq hreads hheld)
  · rw [Command.changes_of_readsSettings hsettings] at hchanges
    cases hchanges
  · rw [← hfiles] at hwritable hheld
    exact (Command.stores_perform hchanges hwritable hheld).congr houtcome hfiles

end Run

end LayeredSettings.CommandLine
