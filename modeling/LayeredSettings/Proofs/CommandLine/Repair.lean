import LayeredSettings.Proofs.CommandLine.Masking
import LayeredSettings.Proofs.Profile.Assignment
import LayeredSettings.Proofs.Store.Restoring

/-!
# Repairing what does not resolve

A command that only needs the profiles file does the same whether the settings resolve or not. The
context that is entered before it has no bearing on how it ends, what it prints and which files it
leaves; of the environment it asks only which settings are bound. So a stored value that stands in
the way of resolving can be removed, whatever else is wrong.
-/

namespace LayeredSettings

/-- Two sessions agree in all but the values that their environments give. -/
structure Session.BindsAlike (session session' : Session) : Prop where
  /-- The sessions have one registry. -/
  registry_eq : session'.registry = session.registry
  /-- Their profiles file is at one path. -/
  path_eq : session'.path = session.path
  /-- One profile is chosen for both. -/
  profile_eq : session'.profile = session.profile
  /-- Their environments bind the same settings. -/
  binds_eq : ∀ d ∈ session.registry.definitions,
    session'.env.binds session.registry d = session.env.binds session.registry d

namespace Session.BindsAlike

variable {session session' : Session} (h : session.BindsAlike session')
include h

/-- Changed settings go to one profile. -/
theorem targetProfile_eq : session'.targetProfile = session.targetProfile := by
  funext c
  unfold targetProfile
  rw [h.profile_eq]

/-- The same keys are warned of. -/
theorem boundInEnvironment_eq : session'.boundInEnvironment = session.boundInEnvironment := by
  funext key
  unfold boundInEnvironment
  rw [h.registry_eq]
  cases hfind : session.registry.find? key with
  | none => rfl
  | some d => exact h.binds_eq d (List.mem_of_find?_eq_some hfind)

end Session.BindsAlike

section Removal

variable {r : Registry} {c : Collection} {p : Profile} {d : Definition}

/-- A setting one of whose keys is stored has a key that it is stored under. -/
theorem Profile.exists_storedKey {key : String} (hstored : key ∈ p.settings.keys)
    (hkey : r.find? key = some d) :
    ∃ stored, Profile.storedKey? r p.settings d.name = some stored := by
  unfold Profile.storedKey?
  split
  · exact ⟨_, rfl⟩
  · refine Option.isSome_iff_exists.mp (List.find?_isSome.mpr ⟨key, hstored, ?_⟩)
    simp [hkey]

/-- Without stored profiles nothing is stored. -/
theorem Collection.settings_eq_of_withDefault {name : String}
    (hp : withDefault.get? name = some p) : p.settings = .empty := by
  obtain ⟨hmem, -⟩ := mem_of_get? hp
  cases List.mem_singleton.mp hmem
  rfl

/-- Profiles that are loaded and are not the default come from the file at the place that the path
leads to. -/
theorem Store.Writable.locate_eq {files : Files} {path : Path} {place : Location}
    (h : Store.Writable files path place) (hload : Store.loadFrom files path = .ok c)
    (hstored : c ≠ .withDefault) : files.locate path = .ok place := by
  refine (h.extends_locked.locate h.leads).resolve_right fun hnone => hstored ?_
  rw [Store.loadFrom_of_notFound hnone] at hload
  exact (Except.ok.inj hload).symm

end Removal

namespace CommandLine

namespace Work

variable {α β : Type}

/-- Two desks differ in their threads only, whichever is named first. -/
theorem Unseen.symm {desk left : Desk} (h : Unseen desk left) : Unseen left desk :=
  ⟨h.lines_eq.symm, h.rejection_eq.symm, h.files_eq.symm⟩

/-- Two ends of work are alike: they have one result, and desks that differ in their threads only.
-/
def Alike (ended ended' : Except SettingsError α × Desk) : Prop :=
  ended.1 = ended'.1 ∧ Unseen ended.2 ended'.2

/-- Two pieces of work end alike wherever the desks differ in their threads only. -/
def EndsAlike (work work' : Work α) : Prop :=
  ∀ desk desk', Unseen desk desk' → Alike (work desk) (work' desk')

/-- Work that ends alike does so whichever is named first. -/
theorem EndsAlike.symm {work work' : Work α} (h : EndsAlike work work') : EndsAlike work' work := by
  intro desk desk' hdesks
  obtain ⟨hresult, hleft⟩ := h desk' desk hdesks.symm
  exact ⟨hresult.symm, hleft.symm⟩

/-- Work ends like a third that ends like the second. -/
theorem EndsAlike.trans {work work' work'' : Work α} (h : EndsAlike work work')
    (h' : EndsAlike work' work'') : EndsAlike work work'' := by
  intro desk desk' hdesks
  obtain ⟨hresult, hleft⟩ := h desk desk ⟨rfl, rfl, rfl⟩
  obtain ⟨hresult', hleft'⟩ := h' desk desk' hdesks
  exact ⟨hresult.trans hresult', hleft.trans hleft'⟩

/-- Work in steps that end alike ends alike. -/
theorem EndsAlike.bind {work work' : Work α} {rest rest' : α → Work β}
    (h : EndsAlike work work') (hrest : ∀ a, EndsAlike (rest a) (rest' a)) :
    EndsAlike (work >>= rest) (work' >>= rest') := by
  intro desk desk' hdesks
  obtain ⟨hresult, hleft⟩ := h desk desk' hdesks
  cases hran : work desk with
  | mk result left =>
    cases hran' : work' desk' with
    | mk result' left' =>
      rw [hran, hran'] at hresult hleft
      cases hresult
      cases result with
      | error e =>
        rw [run_bind_of_error hran, run_bind_of_error hran']
        exact ⟨rfl, hleft⟩
      | ok a =>
        rw [run_bind_of_ok hran, run_bind_of_ok hran']
        exact hrest a left left' hleft

/-- A result ends like itself. -/
theorem endsAlike_ofExcept (result : Except SettingsError α) :
    EndsAlike (ofExcept result) (ofExcept result) :=
  fun _ _ hdesks => ⟨rfl, hdesks⟩

/-- Printing the same lines ends alike. -/
theorem endsAlike_print {lines lines' : List String} (hlines : lines' = lines) :
    EndsAlike (print lines) (print lines') :=
  fun _ _ hdesks =>
    ⟨rfl, congrArg₂ (· ++ ·) hdesks.lines_eq hlines, hdesks.rejection_eq, hdesks.files_eq⟩

/-- Whatever is reported, reporting ends alike. -/
theorem endsAlike_report (events events' : List Event) :
    EndsAlike (report events) (report events') :=
  fun _ _ hdesks => ⟨rfl, hdesks.lines_eq, hdesks.rejection_eq, hdesks.files_eq⟩

/-- Work on the files that is told of in events ends like the same work told of in others. -/
private theorem endsAlike_report_onFiles (events events' : Files → List Event)
    (work : FileWork α) :
    EndsAlike (do report (events (← get).files); onFiles work : Work α)
      (do report (events' (← get).files); onFiles work : Work α) := by
  intro desk desk' hdesks
  have hresult : (work desk.files).1 = (work desk'.files).1 := by rw [hdesks.files_eq]
  have hfiles : (work desk'.files).2 = (work desk.files).2 := by rw [hdesks.files_eq]
  exact ⟨hresult, hdesks.lines_eq, hdesks.rejection_eq, hfiles⟩

/-- Loading the profiles from one path ends alike. -/
theorem endsAlike_profiles {session session' : Session} (hpath : session'.path = session.path) :
    EndsAlike (profiles session) (profiles session') := by
  unfold profiles
  rw [hpath]
  exact endsAlike_report_onFiles (Store.loadEvents · session.path)
    (Store.loadEvents · session.path) (Store.load session.path)

/-- The same change of the profiles at one path ends alike. -/
theorem endsAlike_update {session session' : Session} (hpath : session'.path = session.path)
    {change change' : Collection → Except SettingsError (α × Collection)}
    (hchange : change' = change) (events events' : Collection → List Event) :
    EndsAlike (update session change events) (update session' change' events') := by
  subst hchange
  unfold update
  rw [hpath]
  exact endsAlike_report_onFiles (Store.updateEvents session.path change' events)
    (Store.updateEvents session.path change' events') (Store.update session.path change')

section Rejecting

variable {work work' : Work ℕ} {desk desk' : Desk}

/-- Errors are told alike after ends that are alike. -/
theorem Alike.rejecting (h : Alike (work desk) (work' desk')) :
    Alike (Work.rejecting work desk) (Work.rejecting work' desk') := by
  obtain ⟨hresult, hleft⟩ := h
  unfold Work.rejecting
  cases hran : work desk with
  | mk result left =>
    cases hran' : work' desk' with
    | mk result' left' =>
      rw [hran, hran'] at hresult hleft
      cases hresult
      cases result with
      | ok code => exact ⟨rfl, hleft⟩
      | error e =>
        dsimp only
        split
        · exact ⟨rfl, hleft.lines_eq, rfl, hleft.files_eq⟩
        · exact ⟨rfl, hleft⟩

/-- Errors are told alike after work that ends alike. -/
theorem EndsAlike.rejecting (h : EndsAlike work work') :
    EndsAlike (Work.rejecting work) (Work.rejecting work') :=
  fun desk desk' hdesks => (h desk desk' hdesks).rejecting

/-- The rest of some work tells errors alike if all of it does. -/
theorem EndsAlike.rejecting_bind {step step' : Work α} {rest rest' : α → Work ℕ}
    (h : EndsAlike step step')
    (hrest : ∀ a, EndsAlike (Work.rejecting (rest a)) (Work.rejecting (rest' a))) :
    EndsAlike (Work.rejecting (step >>= rest)) (Work.rejecting (step' >>= rest')) := by
  intro desk desk' hdesks
  obtain ⟨hresult, hleft⟩ := h desk desk' hdesks
  cases hran : step desk with
  | mk result left =>
    cases hran' : step' desk' with
    | mk result' left' =>
      rw [hran, hran'] at hresult hleft
      cases hresult
      cases result with
      | error e =>
        refine Alike.rejecting ?_
        rw [run_bind_of_error hran, run_bind_of_error hran']
        exact ⟨rfl, hleft⟩
      | ok a =>
        have hrejected := hrest a left left' hleft
        unfold Work.rejecting at hrejected ⊢
        rwa [run_bind_of_ok hran, run_bind_of_ok hran']

end Rejecting

end Work

section Run

variable {session session' : Session} {command : Command}

/-- A command that does not read the settings ends alike in sessions that agree in all but the
values that their environments give. -/
theorem Command.endsAlike_perform (h : session.BindsAlike session')
    (hreads : command.readsSettings = false) :
    Work.EndsAlike (command.perform session) (command.perform session') := by
  -- What is told of a change is the same whatever it was.
  have hdone (lines : List String) : Work.EndsAlike
      (do Work.print lines; Work.report [.profileChanged]; return doneCode : Work ℕ)
      (do Work.print lines; Work.report [.profileChanged]; return doneCode) :=
    (Work.endsAlike_print rfl).bind fun _ =>
      (Work.endsAlike_report _ _).bind fun _ => Work.endsAlike_ofExcept _
  have htarget (sets : List (String × Raw)) (unsets : List String) :
      updateTarget session' sets unsets = updateTarget session sets unsets := by
    funext c
    unfold updateTarget
    rw [h.targetProfile_eq, h.registry_eq]
  have hchange {line : String} {change change' : Collection → Except SettingsError Collection}
      (hsame : change' = change) : Work.EndsAlike (changeProfiles session line change)
        (changeProfiles session' line change') := by
    subst hsame
    exact (Work.endsAlike_update h.path_eq rfl _ _).bind fun _ => hdone _
  cases command with
  | set assignments =>
    refine (Work.endsAlike_ofExcept _).bind fun sets => ?_
    refine (Work.endsAlike_update h.path_eq (htarget sets []) _ _).bind fun told => ?_
    have hlines : setLines session' = setLines session := by
      funext target sets
      unfold setLines
      rw [h.boundInEnvironment_eq]
    rw [hlines]
    exact hdone _
  | unset keys =>
    refine (Work.endsAlike_update h.path_eq (htarget [] keys) _ _).bind fun told => ?_
    have hlines : unsetLines session' = unsetLines session := by
      funext target keys
      unfold unsetLines
      rw [h.boundInEnvironment_eq]
    rw [hlines]
    exact hdone _
  | view options => cases hreads
  | list =>
    exact (Work.endsAlike_profiles h.path_eq).bind fun c =>
      (Work.endsAlike_print rfl).bind fun _ => Work.endsAlike_ofExcept _
  | create name copied =>
    refine hchange ?_
    funext c
    rw [h.registry_eq]
  | activate name => exact hchange rfl
  | delete name => exact hchange rfl
  | rename old new => exact hchange rfl
  | inspect name format reveal =>
    refine (Work.endsAlike_profiles h.path_eq).bind fun c => ?_
    rw [h.targetProfile_eq]
    refine (Work.endsAlike_ofExcept _).bind fun p => ?_
    refine (Work.endsAlike_print ?_).bind fun _ => Work.endsAlike_ofExcept _
    have hmasks : masks session' reveal = masks session reveal := by
      funext key
      unfold masks
      rw [h.registry_eq]
    cases format with
    | json =>
      dsimp only
      unfold storedObject
      rw [hmasks]
    | text =>
      dsimp only
      unfold storedLines
      rw [hmasks]

/-- A session agrees with itself. -/
private theorem bindsAlike_refl (session : Session) : session.BindsAlike session :=
  ⟨rfl, rfl, rfl, fun _ _ => rfl⟩

/-- A run of a command that does not read the settings ends like the command done where the profiles
can be loaded: whether a context is entered, and which, has no bearing on it. -/
theorem endsAlike_run (session : Session) (hook : Option Hook)
    (hreads : command.readsSettings = false) :
    Work.EndsAlike (run session hook command)
      (Work.rejecting do
        let _ ← Work.profiles session
        command.perform session) := by
  refine (Work.endsAlike_profiles rfl).rejecting_bind fun c => ?_
  have hperform := Command.endsAlike_perform (bindsAlike_refl session) hreads
  intro desk desk' hdesks
  obtain ⟨left, hleft, hunseen, -⟩ := Work.enter_unseen session c hook desk
  have hdesks' := hunseen.symm.trans hdesks
  cases hguard : desk.thread.attemptGuard none hook (Work.entered session hook c) with
  | ok guard =>
    -- The command tells its errors itself, and leaving the context only concerns the thread.
    rw [← Work.rejecting_rejecting (command.perform session)]
    refine Work.Alike.rejecting ?_
    obtain ⟨hresult, hended⟩ := hperform.rejecting left desk' hdesks'
    rw [run_bind_of_ok hleft, hguard, Work.rejecting_rejecting]
    exact ⟨hresult, hended.lines_eq, hended.rejection_eq, hended.files_eq⟩
  | error e =>
    refine Work.Alike.rejecting ?_
    rw [run_bind_of_ok hleft, hguard]
    dsimp only
    rw [hreads]
    exact hperform { left with thread := left.thread.report [.settingsUnresolved e] } desk'
      ⟨hdesks'.lines_eq, hdesks'.rejection_eq, hdesks'.files_eq⟩

variable {hook : Option Hook} {desk : Desk} {place : Location} {c : Collection}

/-- Work that is done told of no error. -/
theorem Work.rejecting_eq_of_done {work : Work ℕ}
    (hdone : (rejecting work desk).1 = .ok doneCode) : rejecting work desk = work desk := by
  unfold rejecting at hdone ⊢
  cases hran : work desk with
  | mk result left =>
    cases result with
    | ok code => rfl
    | error e =>
      rw [hran] at hdone
      dsimp only at hdone ⊢
      split
      · next htold =>
        rw [if_pos htold] at hdone
        cases hdone
      · rfl

/-- A run that is done, of a command that does not read the settings, did the command. -/
theorem exists_perform_of_run (hreads : command.readsSettings = false)
    (hdone : (run session hook command desk).1 = .ok doneCode) :
    ∃ loaded left, Work.Unseen desk loaded ∧
      command.perform session loaded = (.ok doneCode, left) ∧
      Work.Unseen (run session hook command desk).2 left := by
  have halike : Work.EndsAlike (run session hook command) _ := endsAlike_run session hook hreads
  obtain ⟨hresult, hleft⟩ := halike desk desk ⟨rfl, rfl, rfl⟩
  rw [hresult] at hdone
  have htold := Work.rejecting_eq_of_done hdone
  rw [htold] at hdone hleft
  have hran := Prod.ext (y := (Except.ok doneCode, _)) hdone rfl
  obtain ⟨_, loaded, hloaded, hperform⟩ := run_bind_eq_ok hran
  obtain ⟨loaded', hloaded', hunseen, -⟩ := Work.profiles_unseen session desk
  obtain ⟨-, rfl⟩ := Prod.mk.inj (hloaded'.symm.trans hloaded)
  exact ⟨loaded', _, hunseen, hperform, hleft⟩

/-- An update of the profiles file prints nothing. -/
theorem Work.lines_update {α : Type} (session : Session)
    (change : Collection → Except SettingsError (α × Collection))
    (events : Collection → List Event) (desk : Desk) :
    (update session change events desk).2.lines = desk.lines := rfl

/-- A batch that is stored could be written, and goes to the target profile of what the file holds
under the lock; the file then holds the changed profiles, and no line is printed. -/
theorem updateSettings_eq_ok {sets : List (String × Raw)} {unsets : List String}
    {told : String × SettingsUpdate} {left : Desk}
    (hok : updateSettings session sets unsets desk = (.ok told, left)) :
    ∃ c applied changed place,
      Store.loadFrom (Store.takeLock session.path desk.files).2 session.path = .ok c ∧
      told = (session.targetProfile c, applied) ∧
      c.update session.registry (session.targetProfile c) sets unsets = .ok (applied, changed) ∧
      left.lines = desk.lines ∧ Store.Writable desk.files session.path place ∧
      left.files.locate session.path = .ok place ∧
      left.files.get? place = some (.file (.text changed.render)) := by
  unfold updateSettings at hok
  have hlines := Work.lines_update session (updateTarget session sets unsets)
    (fun c => c.updateEvents session.registry (session.targetProfile c) sets unsets) desk
  obtain ⟨left', hran, hfiles⟩ := Work.update_eq session (updateTarget session sets unsets)
    (fun c => c.updateEvents session.registry (session.targetProfile c) sets unsets) desk
  rw [hok] at hlines hran
  obtain ⟨hresult, rfl⟩ := Prod.mk.inj hran
  obtain ⟨c, changed, place, hload, hchange, hstored⟩ :=
    Store.update_eq_ok (Prod.ext hresult.symm hfiles.symm)
  obtain ⟨⟨applied, made⟩, hupdate, hmade⟩ := bind_eq_ok hchange
  cases hmade
  exact ⟨c, applied, _, place, hload, rfl, hupdate, hlines, hstored⟩

/-- Work that is done ends with the exit code that tells so. -/
theorem Work.eq_doneCode_of_outcome {work : Work ℕ} (hdone : (work.outcome desk).1 = true) :
    (work desk).1 = .ok doneCode := by
  have hcode : exitCode (work desk).1 = doneCode := beq_iff_eq.mp hdone
  cases hran : (work desk).1 with
  | ok code =>
    rw [hran] at hcode
    exact congrArg Except.ok hcode
  | error e =>
    rw [hran] at hcode
    cases hcode

/-- A run that removes settings and is done could write the profiles file. -/
theorem exists_writable_of_run_unset {keys : List String}
    (hdone : (run session hook (.unset keys) desk).1 = .ok doneCode) :
    ∃ place, Store.Writable desk.files session.path place := by
  obtain ⟨loaded, left, hunseen, hunset, -⟩ := exists_perform_of_run rfl hdone
  obtain ⟨told, stored, hupdate, -⟩ := run_bind_eq_ok hunset
  obtain ⟨_, _, _, place, -, -, -, -, hwritable, -⟩ := updateSettings_eq_ok hupdate
  exact ⟨place, hunseen.files_eq ▸ hwritable⟩

/-- Removing a stored setting is done, and the file then holds the collection without the key that
the setting was stored under. -/
theorem run_unset {key stored : String} {d : Definition} {p : Profile}
    (hload : Store.loadFrom desk.files session.path = .ok c)
    (hkey : session.registry.find? key = some d)
    (hp : c.get? (session.targetProfile c) = some p)
    (hstored : Profile.storedKey? session.registry p.settings d.name = some stored)
    (hwritable : Store.Writable desk.files session.path place) :
    let ended := run session hook (.unset [key]) desk
    let changed := c.putSettings (session.targetProfile c) (p.settings.erase stored)
    ended.1 = .ok doneCode ∧ ended.2.files.locate session.path = .ok place ∧
      ended.2.files.get? place = some (.file (.text changed.render)) ∧
      (changed.toDocument.ReadsBack →
        Store.loadFrom ended.2.files session.path = .ok changed) := by
  intro ended changed
  have hthere : c ≠ .withDefault := by
    rintro rfl
    rw [Collection.settings_eq_of_withDefault hp] at hstored
    cases hstored
  have hplace := hwritable.locate_eq hload hthere
  have hheld := (Store.loadFrom_eq_ok_iff hplace).mp hload
  have happly : (Command.unset [key]).apply session c = .ok changed := by
    have hupdate := Collection.update_of_storedKey hp hkey hstored
    change (do return (← c.update session.registry (session.targetProfile c) [] [key]).2 :
      Except SettingsError Collection) = _
    rw [hupdate]
    rfl
  have hstores : (run session hook (.unset [key])).Stores session.path place desk
      ((Command.unset [key]).apply session c) :=
    stores_run rfl (fun _ => hplace) hwritable hheld
  rw [happly] at hstores
  obtain ⟨hdone, hleads, hget⟩ := hstores
  refine ⟨Work.eq_doneCode_of_outcome hdone, hleads, hget, fun hreads => ?_⟩
  have hformed := Command.wellFormed_of_apply (Store.wellFormed_of_held? hheld) happly
  exact (Store.loadFrom_eq_ok_iff hleads).mpr
    (Store.held?_of_parse hget (hformed.parse_render hreads))

end Run

/-- Commands that do not read the settings are done without them. Of two sessions whose environments
bind the same settings, to whatever values, such a command ends alike, prints the same and leaves
the same files, with any hooks; the settings may resolve in the one and not in the other. And a
known setting that is stored in the target profile can be removed, however many values do not fit:
the command is done unless the profiles file cannot be written at all, and the file then holds the
collection without the key that the setting was stored under. -/
theorem repair_needs_no_settings {session : Session} {desk : Desk} :
    (∀ {session' : Session} {desk' : Desk} {command : Command}, session.BindsAlike session' →
      Work.Unseen desk desk' → command.readsSettings = false → ∀ hook hook' : Option Hook,
        let ended := run session hook command desk
        let ended' := run session' hook' command desk'
        ended.1 = ended'.1 ∧ ended.2.printed = ended'.2.printed ∧
          ended.2.files = ended'.2.files) ∧
    ∀ {c : Collection} {key : String} {d : Definition} {p : Profile},
      Store.loadFrom desk.files session.path = .ok c →
      session.registry.find? key = some d →
      c.get? (session.targetProfile c) = some p →
      (∃ other ∈ p.settings.keys, session.registry.find? other = some d) →
      ∃ stored, Profile.storedKey? session.registry p.settings d.name = some stored ∧
        ∀ hook : Option Hook,
          let ended := run session hook (.unset [key]) desk
          let changed := c.putSettings (session.targetProfile c) (p.settings.erase stored)
          (ended.1 = .ok doneCode ↔ ∃ place, Store.Writable desk.files session.path place) ∧
          ∀ place, Store.Writable desk.files session.path place →
            ended.2.files.locate session.path = .ok place ∧
            ended.2.files.get? place = some (.file (.text changed.render)) ∧
            (changed.toDocument.ReadsBack →
              Store.loadFrom ended.2.files session.path = .ok changed) := by
  constructor
  · intro session' desk' command hsessions hdesks hreads hook hook'
    have hperformed := (Work.endsAlike_profiles hsessions.path_eq).bind fun _ =>
      Command.endsAlike_perform hsessions hreads
    have halike := (endsAlike_run session hook hreads).trans
      (hperformed.rejecting.trans (endsAlike_run session' hook' hreads).symm)
    obtain ⟨hresult, hleft⟩ := halike desk desk' hdesks
    refine ⟨hresult, ?_, hleft.files_eq.symm⟩
    unfold Desk.printed
    rw [hleft.lines_eq, hleft.rejection_eq]
  · intro c key d p hload hkey hp hthere
    obtain ⟨other, hother, hfind⟩ := hthere
    obtain ⟨stored, hstored⟩ := Profile.exists_storedKey hother hfind
    refine ⟨stored, hstored, fun hook => ⟨⟨exists_writable_of_run_unset, ?_⟩, ?_⟩⟩
    · rintro ⟨place, hwritable⟩
      exact (run_unset hload hkey hp hstored hwritable).1
    · intro place hwritable
      exact (run_unset hload hkey hp hstored hwritable).2

/-- A port that is stored under its old name. -/
def portProfiles (port : String) : Collection :=
  ⟨[⟨Collection.defaultName, .ofList [("OLD_PORT", .text port)]⟩], none⟩

/-- A desk with the file that stores the port. -/
def portDesk (port : String) : Desk where
  files := ⟨[], [(["profiles.toml"], .file (.text ("[profiles.default]\nOLD_PORT = \"" ++ port ++
    "\"\n")))]⟩
  thread := .start none

/-- A session whose environment gives a port, too. -/
def portSession (port : String) : Session where
  registry := ⟨"", none, [{ name := "PORT", kind := .integer, aliases := ["OLD_PORT"] }]⟩
  env := .ofList [("PORT", port)]
  path := ⟨"profiles.toml"⟩
  profile := none

/-- With a port that is no number, stored or in the environment, no settings can be resolved, and
the stored port can be taken out all the same. -/
theorem repair_needs_no_settings_of_port :
    let resolved (given stored : String) := ((portSession given).inputs
      (portProfiles stored)).resolve (portSession given).registry
    (portSession "80").BindsAlike (portSession "none") ∧
      (resolved "80" "90").isOk = true ∧ (resolved "none" "90").isOk = false ∧
      (run (portSession "80") none (.unset ["PORT"]) (portDesk "90")).2.printed =
        (run (portSession "none") none (.unset ["PORT"]) (portDesk "90")).2.printed ∧
      (resolved "none" "many").isOk = false ∧
      (run (portSession "none") none (.unset ["PORT"]) (portDesk "many")).1 = .ok doneCode ∧
      (run (portSession "none") none (.unset ["PORT"]) (portDesk "many")).2.files.get?
        ["profiles.toml"] = some (.file (.text "[profiles.default]\n")) := by
  intro resolved
  have hsessions : (portSession "80").BindsAlike (portSession "none") := by
    refine ⟨rfl, rfl, rfl, fun d hd => ?_⟩
    cases List.mem_singleton.mp hd
    decide +kernel
  have hdesks : Work.Unseen (portDesk "90") (portDesk "90") := ⟨rfl, rfl, rfl⟩
  have hreads : (Command.unset ["PORT"]).readsSettings = false := rfl
  obtain ⟨-, hprinted, -⟩ := repair_needs_no_settings.1 hsessions hdesks hreads none none
  have hwritable : Store.Writable (portDesk "many").files ⟨"profiles.toml"⟩ ["profiles.toml"] := by
    have hmoved : (Store.takeLock ⟨"profiles.toml"⟩ (portDesk "many").files).2.moveInto
        ⟨"profiles.toml"⟩ "" = .ok ⟨[], [(["profiles.toml.lock"], .file (.text "")),
          (["profiles.toml"], .file (.text ""))]⟩ := by decide +kernel
    exact ⟨by decide +kernel, by decide +kernel, Files.exists_moveInto hmoved⟩
  have hload : Store.loadFrom (portDesk "many").files (portSession "none").path =
      .ok (portProfiles "many") := by decide +kernel
  let port : Definition := { name := "PORT", kind := .integer, aliases := ["OLD_PORT"] }
  let profile : Profile := ⟨Collection.defaultName, .ofList [("OLD_PORT", .text "many")]⟩
  have hport : (portSession "none").registry.find? "PORT" = some port := rfl
  have hold : (portSession "none").registry.find? "OLD_PORT" = some port := rfl
  have hp : (portProfiles "many").get?
      ((portSession "none").targetProfile (portProfiles "many")) = some profile := by decide +kernel
  have hthere : "OLD_PORT" ∈ profile.settings.keys := by decide +kernel
  obtain ⟨stored, hstored, hunset⟩ :=
    repair_needs_no_settings.2 hload hport hp ⟨"OLD_PORT", hthere, hold⟩
  have hkey : stored = "OLD_PORT" := by
    have hfound : Profile.storedKey? (portSession "none").registry profile.settings port.name =
      some "OLD_PORT" := by decide +kernel
    exact Option.some.inj (hstored.symm.trans hfound)
  subst hkey
  obtain ⟨hiff, hleft⟩ := hunset none
  have hdone := hiff.mpr ⟨_, hwritable⟩
  obtain ⟨-, hget, -⟩ := hleft _ hwritable
  have hresolved : (resolved "80" "90").isOk = true := by decide +kernel
  have hrefused : (resolved "none" "90").isOk = false := by decide +kernel
  have hrefused' : (resolved "none" "many").isOk = false := by decide +kernel
  have htext : ((portProfiles "many").putSettings
      ((portSession "none").targetProfile (portProfiles "many"))
      (profile.settings.erase "OLD_PORT")).render = "[profiles.default]\n" := by decide +kernel
  rw [htext] at hget
  exact ⟨hsessions, hresolved, hrefused, hprinted, hrefused', hdone, hget⟩

end CommandLine

end LayeredSettings
