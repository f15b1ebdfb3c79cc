import LayeredSettings.Proofs.CommandLine.Repair
import LayeredSettings.Proofs.Profile.Assignment
import LayeredSettings.Proofs.Settings.Finiteness

/-!
# Viewing what was set

Setting a value stores it in the target profile, which is the default one where no profile is chosen
and none is active. Viewing reads the profile that is chosen, or the active one. Where there is
such a profile the two agree, and the view shows what was stored unless the environment outranks it.
Where there is none nothing is read, and what was stored is not shown.
-/

namespace LayeredSettings

section Resolved

variable {r : Registry} {d : Definition} {e : Entry} {s : Settings}

/-- A profile that is chosen, or else active, is the one to read. -/
theorem Collection.selects_of_get? {c : Collection} {profile : Option String} {name : String}
    {p : Profile} (hname : profile.or c.activeName? = some name) (hp : c.get? name = some p) :
    c.Selects profile (some p) := by
  cases profile with
  | some chosen =>
    cases hname
    exact .named hp
  | none =>
    refine .active ?_
    have hactive : c.activeName? = some name := hname
    unfold activeProfile?
    rw [hactive]
    exact hp

/-- Where no profile is chosen and none is active none is read. -/
theorem Collection.selects_none {c : Collection} {profile : Option String}
    (hname : profile.or c.activeName? = none) : c.Selects profile none := by
  obtain ⟨rfl, hactive⟩ := Option.or_eq_none_iff.mp hname
  refine .nothing ?_
  unfold activeProfile?
  rw [hactive]
  rfl

/-- If no name occurs twice, what is found under a name is all that has the name. -/
theorem Settings.filter_eq_of_get? (hnodup : (s.entries.map (·.name)).Nodup) {name : String}
    (hget : s.get? name = some e) : s.entries.filter (·.name = name) = [e] := by
  unfold get? at hget
  generalize s.entries = entries at hnodup hget
  induction entries with
  | nil => cases hget
  | cons first rest ih =>
    obtain ⟨hnot, hnodup⟩ := List.nodup_cons.mp hnodup
    by_cases hname : first.name = name
    · have hrest : rest.filter (·.name = name) = [] := by
        refine List.filter_eq_nil_iff.mpr fun other hother => ?_
        have hne : other.name ≠ name := fun heq =>
          hnot (List.mem_map.mpr ⟨other, hother, heq.trans hname.symm⟩)
        simpa using hne
      rw [List.find?_cons_of_pos (by simpa using hname)] at hget
      rw [List.filter_cons_of_pos (by simpa using hname), hrest, Option.some.inj hget]
    · rw [List.find?_cons_of_neg (by simpa using hname)] at hget
      rw [List.filter_cons_of_neg (by simpa using hname), ih hnodup hget]

/-- After a resolution there is one entry for each setting, in the order of the registry. -/
theorem names_of_resolve (h : r.Consistent) {env : Environment} {c : Collection}
    {profile : Option String} {overrides : Overrides}
    (hok : resolve r env c profile overrides = .ok s) : s.entries.map (·.name) = r.names := by
  obtain ⟨chosen, named, -, -, -, hentries⟩ := resolve_eq_ok hok
  exact (solves_of_expandTemplates h (map_name_mergedEntries (storedValues r chosen) env named)
    hentries).1

/-- A default entry has the name of its setting, and no layer. -/
theorem Definition.defaultEntry_eq (d : Definition) :
    d.defaultEntry = ⟨d.name, d.defaultEntry.value, .default⟩ := by
  unfold defaultEntry
  split <;> rfl

end Resolved

namespace CommandLine

/-- The entries that a view lists: those at their defaults only if asked for. -/
def ViewOptions.listed (options : ViewOptions) (s : Settings) : List Entry :=
  s.entries.filter fun e => options.showDefaults || e.source ≠ .default

/-- What a view lists for a setting after a raw value was stored for it in the target profile, where
`read` is the profile that is chosen or active: the value of the environment if that has one, else
the stored value. But where no profile is read, the setting is at its default. -/
inductive ViewOptions.ListsStored (options : ViewOptions) (session : Session)
    (read : Option String) (d : Definition) (raw : Raw) : List Entry → Prop
  | environment {text : String} {value : Value}
      (htext : session.env.Supplies session.registry d text)
      (hcast : d.cast session.registry.home (.text text) = .ok value) :
      ListsStored options session read d raw [⟨d.name, some value, .environment⟩]
  | profile {value : Value} (henv : session.env.Omits session.registry d) (hread : read.isSome)
      (hcast : d.cast session.registry.home raw = .ok value) :
      ListsStored options session read d raw [⟨d.name, some value, .profile⟩]
  | unread {value : Option Value} (henv : session.env.Omits session.registry d)
      (hread : read = none) :
      ListsStored options session read d raw
        (if options.showDefaults then [⟨d.name, value, .default⟩] else [])

/-- The line that warns of a setting whose stored value the environment overrides. -/
def overrideWarning (key : String) : String :=
  "'" ++ key ++ "' is also set by an environment variable which will override your " ++
    "config value. Run \x60unset " ++ key ++ "\x60 to clear it."

/-- Warnings of different settings differ. -/
theorem overrideWarning_injective : Function.Injective overrideWarning := by
  intro key other hsame
  have htexts := congrArg String.toList hsame
  unfold overrideWarning at htexts
  simp only [String.toList_append, List.append_assoc] at htexts
  have hlength := congrArg List.length htexts
  simp only [List.length_append] at hlength
  have hkeys := List.append_inj_left (List.append_inj_right htexts rfl) (by omega)
  exact String.toList_injective hkeys

section Lines

variable {session : Session} {target : String} {sets : List (String × Raw)} {key : String}

/-- A stored setting is warned of exactly if the environment has a value for it. -/
theorem overrideWarning_mem_setLines_iff (hkey : key ∈ sets.map (·.1)) :
    overrideWarning key ∈ setLines session target sets ↔
      session.boundInEnvironment key = true := by
  -- A warning begins with a quote, and no other line does.
  have hset (other : String) (raw : Raw) :
      overrideWarning key ≠ "Set '" ++ other ++ "' to '" ++ raw.toText ++ "'." := by
    intro hsame
    have hhead := congrArg (fun s => s.toList.head?) hsame
    simp [overrideWarning] at hhead
  have hupdated : overrideWarning key ≠ "Updated profile '" ++ target ++ "'." := by
    intro hsame
    have hhead := congrArg (fun s => s.toList.head?) hsame
    simp [overrideWarning] at hhead
  unfold setLines
  rw [List.mem_append, List.mem_flatMap, List.mem_singleton]
  constructor
  · rintro (⟨⟨other, raw⟩, -, hline⟩ | hline)
    · rcases List.mem_cons.mp hline with hline | hline
      · exact absurd hline (hset other raw)
      · split at hline
        · next hbound =>
          rwa [overrideWarning_injective (List.mem_singleton.mp hline)]
        · cases hline
    · exact absurd hline hupdated
  · intro hbound
    obtain ⟨⟨_, raw⟩, hmem, rfl⟩ := List.mem_map.mp hkey
    refine Or.inl ⟨_, hmem, List.mem_cons_of_mem _ ?_⟩
    rw [if_pos hbound]
    exact List.mem_singleton.mpr rfl

end Lines

section Done

variable {session : Session} {hook : Option Hook} {desk : Desk}

/-- Setting values that is done read the values, stored them in the target profile of what the file
holds under the lock, left the changed profiles in the file, and told what was stored. -/
theorem setSettings_eq_ok {assignments : List String} {left : Desk}
    (hok : setSettings session assignments desk = (.ok doneCode, left)) :
    ∃ sets c applied changed, assignments.mapM assignment = .ok sets ∧
      Store.loadFrom (Store.takeLock session.path desk.files).2 session.path = .ok c ∧
      c.update session.registry (session.targetProfile c) sets [] = .ok (applied, changed) ∧
      left.lines = desk.lines ++ setLines session (session.targetProfile c) applied.set ∧
      ∃ place, left.files.locate session.path = .ok place ∧
        left.files.get? place = some (.file (.text changed.render)) := by
  obtain ⟨sets, _, hread, hok⟩ := run_bind_eq_ok hok
  obtain ⟨hparse, rfl⟩ := Prod.mk.inj hread
  obtain ⟨told, stored, hupdate, hok⟩ := run_bind_eq_ok hok
  obtain ⟨c, applied, changed, place, hload, rfl, hchange, hlines, -, hheld⟩ :=
    updateSettings_eq_ok hupdate
  have hleft : { stored with
      thread := stored.thread.report [.profileChanged]
      lines := stored.lines ++ setLines session (session.targetProfile c) applied.set } = left :=
    (Prod.mk.inj hok).2
  subst hleft
  dsimp only
  rw [hlines]
  exact ⟨sets, c, applied, changed, hparse, hload, hchange, rfl, place, hheld⟩

/-- A run that sets values and is done does what setting the values does. -/
theorem run_set_eq_ok {assignments : List String}
    (hdone : (run session hook (.set assignments) desk).1 = .ok doneCode) :
    let left := (run session hook (.set assignments) desk).2
    ∃ sets c applied changed, assignments.mapM assignment = .ok sets ∧
      Store.loadFrom (Store.takeLock session.path desk.files).2 session.path = .ok c ∧
      c.update session.registry (session.targetProfile c) sets [] = .ok (applied, changed) ∧
      left.lines = desk.lines ++ setLines session (session.targetProfile c) applied.set ∧
      ∃ place, left.files.locate session.path = .ok place ∧
        left.files.get? place = some (.file (.text changed.render)) := by
  intro left
  obtain ⟨loaded, ended, hunseen, hset, hleft⟩ := exists_perform_of_run rfl hdone
  obtain ⟨sets, c, applied, changed, hparse, hload, hchange, hlines, hheld⟩ :=
    setSettings_eq_ok hset
  rw [hunseen.files_eq] at hload
  rw [hleft.lines_eq, hunseen.lines_eq] at hlines
  rw [hleft.files_eq] at hheld
  exact ⟨sets, c, applied, changed, hparse, hload, hchange, hlines, hheld⟩

variable {c : Collection}

/-- A context that is entered afresh holds the settings that its sources resolve to. -/
theorem exists_resolve_of_entered {context : SettingsContext}
    (hentered : Work.entered session hook c = .ok context) :
    ∃ s, (session.inputs c).resolve session.registry = .ok s ∧
      context = ⟨s, (session.inputs c).profileName?⟩ := by
  cases hresolve : (session.inputs c).resolve session.registry with
  | error e =>
    have hbuild : Sources.build ⟨session.registry, session.env, c⟩ (.error .noActiveContext)
        { profile := session.profile } = .error e := by
      change resolve session.registry session.env c session.profile .empty = .error e at hresolve
      unfold Sources.build
      simp only [hresolve]
      rfl
    unfold Work.entered Sources.admitted at hentered
    rw [hbuild] at hentered
    cases hentered
  | ok s =>
    rw [entered_eq rfl hresolve] at hentered
    refine ⟨s, rfl, ?_⟩
    cases hasked : hook.elim (.ok none) (·.onEnter ⟨s, (session.inputs c).profileName?⟩) with
    | error e =>
      rw [hasked] at hentered
      cases hentered
    | ok level =>
      rw [hasked] at hentered
      exact (Except.ok.inj hentered).symm

/-- A view that is done lists the settings that the profiles in the file resolve to. -/
theorem run_view_eq_ok {options : ViewOptions}
    (hload : Store.loadFrom desk.files session.path = .ok c)
    (hstack : desk.thread.stack = .empty)
    (hdone : (run session hook (.view options) desk).1 = .ok doneCode) :
    ∃ s, (session.inputs c).resolve session.registry = .ok s ∧
      (run session hook (.view options) desk).2.lines =
        desk.lines ++ contextLines options ⟨s, (session.inputs c).profileName?⟩ := by
  have hseen : (run session hook (.view options)).seen desk = _ := seen_run_view hload hstack
  obtain ⟨hresult, hrest⟩ := Prod.mk.inj hseen
  obtain ⟨hlines, -⟩ := Prod.mk.inj hrest
  rw [hresult] at hdone
  have htold := Work.rejecting_eq_of_done hdone
  rw [htold] at hdone hlines
  rw [hlines]
  cases hcontext : Work.entered session hook c with
  | error e =>
    rw [hcontext] at hdone
    cases hdone
  | ok context =>
    obtain ⟨s, hresolve, rfl⟩ := exists_resolve_of_entered hcontext
    exact ⟨s, hresolve, rfl⟩

end Done

section Stored

variable {session : Session} {c : Collection} {s : Settings} {d : Definition} {p : Profile}
  {raw : Raw}

/-- A view lists an entry of one name if it is not at its default, or else if asked for. -/
private theorem filter_listed {e : Entry} (options : ViewOptions)
    (hfilter : s.entries.filter (·.name = d.name) = [e]) :
    (options.listed s).filter (·.name = d.name) =
      if options.showDefaults || e.source ≠ .default then [e] else [] := by
  unfold ViewOptions.listed
  rw [List.filter_comm, hfilter, List.filter_cons, List.filter_nil]

/-- A value that is stored in the target profile under the name of its setting is listed, unless the
environment outranks it or no profile is read. -/
theorem listsStored_of_resolve (h : session.registry.Consistent)
    (hd : d ∈ session.registry.definitions) (hp : c.get? (session.targetProfile c) = some p)
    (hraw : p.settings.get? d.name = some raw)
    (hok : (session.inputs c).resolve session.registry = .ok s) (options : ViewOptions) :
    options.ListsStored session (session.profile.or c.activeName?) d raw
      ((options.listed s).filter (·.name = d.name)) := by
  have hstores : p.Stores d raw := .named hraw
  obtain ⟨e, hget, -⟩ := Settings.exists_get?_of_names (names_of_resolve h hok) hd
  have hone := Settings.filter_eq_of_get? (names_of_resolve h hok ▸ h.nodup_names) hget
  rw [filter_listed options hone]
  cases hread : session.profile.or c.activeName? with
  | some name =>
    have htarget : session.targetProfile c = name := by
      unfold Session.targetProfile
      rw [hread]
      rfl
    rw [htarget] at hp
    have hfrom := comesFrom_of_resolve h hd (Collection.selects_of_get? hread hp) hok hget
    have hfirst : Profile.FirstStored d [p] raw := .here hstores
    cases hfrom with
    | environment htext hcast =>
      rw [if_pos (by simp)]
      exact .environment htext hcast
    | profile henv hother hcast =>
      rw [if_pos (by simp)]
      exact .profile henv rfl (hother.unique hfirst ▸ hcast)
    | template henv hnone _ => exact absurd hfirst (hnone raw)
    | fixed _ henv hnone => exact absurd hfirst (hnone raw)
  | none =>
    have hfrom := comesFrom_of_resolve h hd (Collection.selects_none hread) hok hget
    have hdefault {value : Option Value} (henv : session.env.Omits session.registry d) :
        options.ListsStored session none d raw
          (if options.showDefaults || Source.default ≠ .default then [⟨d.name, value, .default⟩]
          else []) := by
      rw [show (options.showDefaults || decide (Source.default ≠ .default)) = options.showDefaults
        by simp]
      exact .unread henv rfl
    cases hfrom with
    | environment htext hcast =>
      rw [if_pos (by simp)]
      exact .environment htext hcast
    | profile henv hother hcast => cases hother
    | template henv _ _ => exact hdefault henv
    | fixed _ henv _ =>
      rw [d.defaultEntry_eq]
      exact hdefault henv

end Stored

/-- What a command that is done stores is what a view lists afterwards, as long as a profile is
chosen or active. If setting values is done and so is a view of the same session on the files it
left, the view lists for every assigned setting exactly one entry: with the value of the environment
if that has one, and then there was a warning, else with the last value assigned. But if no profile
is chosen and none is active, the values went to the default profile, which the view does not read:
the setting is then at its default. -/
theorem view_after_set {envPrefix : String} {home : Home} {definitions : List Definition}
    {r : Registry} (hbuild : Registry.build envPrefix home definitions = .ok r) {session : Session}
    (hregistry : session.registry = r) {files : Files} {thread : Thread} {hook : Option Hook}
    {assignments : List String}
    (hset : (run session hook (.set assignments) { files, thread }).1 = .ok doneCode) :
    let left := (run session hook (.set assignments) { files, thread }).2
    ∃ sets c changed, assignments.mapM assignment = .ok sets ∧
      Store.loadFrom (Store.takeLock session.path files).2 session.path = .ok c ∧
      (Command.set assignments).apply session c = .ok changed ∧
      (changed.toDocument.ReadsBack →
        ∀ (hook' : Option Hook) (later : Thread) (options : ViewOptions), later.stack = .empty →
          let view := run session hook' (.view options) { files := left.files, thread := later }
          view.1 = .ok doneCode →
          let read := session.profile.or c.activeName?
          ∃ s, view.2.lines = ("PREFECT_PROFILE='" ++ read.getD "" ++ "'") ::
              (options.listed s).map (entryLine options) ∧
            ∀ d ∈ r.definitions, ∀ raw, d.lastAssigned? sets = some raw →
              (overrideWarning d.name ∈ left.lines ↔ session.env.binds r d = true) ∧
              options.ListsStored session read d raw
                ((options.listed s).filter (·.name = d.name))) := by
  obtain ⟨-, h⟩ := Registry.consistent_of_build hbuild
  subst hregistry
  intro left
  obtain ⟨sets, c, applied, changed, hparse, hload, hupdate, hlines, place, hplace, hget⟩ :=
    run_set_eq_ok hset
  have happly : (Command.set assignments).apply session c = .ok changed := by
    unfold Command.apply Command.operation Operation.apply
    simp only [hparse, bind, Except.bind, pure, Except.pure, hupdate]
  refine ⟨sets, c, changed, hparse, hload, happly, ?_⟩
  intro hreads hook' later options hstack view hdone read
  have hformed := Command.wellFormed_of_apply (Store.wellFormed_of_loadFrom hload) happly
  let desk : Desk := { files := left.files, thread := later }
  have hloaded : Store.loadFrom desk.files session.path = .ok changed :=
    (Store.loadFrom_eq_ok_iff hplace).mpr (Store.held?_of_parse hget (hformed.parse_render hreads))
  obtain ⟨s, hresolve, hviewed⟩ := run_view_eq_ok hloaded hstack hdone
  obtain ⟨hactive, p, hp, hstored⟩ := Collection.update_assigns h hupdate
  have hname : changed.activeName? = c.activeName? := congrArg (Option.map ProfileName.text) hactive
  have htarget : session.targetProfile changed = session.targetProfile c := by
    unfold Session.targetProfile
    rw [hname]
  refine ⟨s, ?_, fun d hd raw hlast => ⟨?_, ?_⟩⟩
  · change (run session hook' (.view options) desk).2.lines = _
    rw [hviewed]
    unfold Inputs.profileName?
    change contextLines options ⟨s, session.profile.or changed.activeName?⟩ = _
    rw [hname]
    rfl
  · obtain ⟨-, htold⟩ := hstored d hd raw hlast
    have hfind : session.registry.find? d.name = some d :=
      h.find?_eq_some_iff.mpr ⟨hd, List.mem_cons_self⟩
    have hbound : session.boundInEnvironment d.name = session.env.binds session.registry d := by
      unfold Session.boundInEnvironment
      rw [hfind]
      rfl
    change overrideWarning d.name ∈ left.lines ↔ _
    rw [hlines, ← hbound]
    exact overrideWarning_mem_setLines_iff (List.mem_map_of_mem htold)
  · obtain ⟨hraw, -⟩ := hstored d hd raw hlast
    have hlists := listsStored_of_resolve h hd (htarget ▸ hp) hraw hresolve options
    rw [hname] at hlists
    exact hlists

/-- A session without variables in which no profile is chosen. -/
def plainSession : Session := { portSession "" with env := .empty }

/-- A file with the default profile, after a line for the active one. -/
def profileFiles (pointer : String) : Files :=
  ⟨[], [(["profiles.toml"], .file (.text (pointer ++ "[profiles.default]\n")))]⟩

/-- A port set twice. -/
def portSet (pointer : String) : Except SettingsError ℕ × Desk :=
  run plainSession none (.set ["OLD_PORT=80", "PORT=90"])
    { files := profileFiles pointer, thread := .start none }

/-- The settings viewed after that, with secrets. -/
def portViewed (pointer : String) : Except SettingsError ℕ × Desk :=
  run plainSession none (.view ⟨false, false, true⟩)
    { files := (portSet pointer).2.files, thread := .start none }

/-- The profiles with the port that is left. -/
def setProfiles : Collection :=
  ⟨[⟨Collection.defaultName, .ofList [("PORT", .text "90")]⟩], some Collection.defaultName⟩

/-- The texts of a table with a profile that stores a text, and a pointer. -/
private def textsOfPointed : Option Toml.Table → Option (List String)
  | some [(k, .string a), (l, .table [(n, .table [(key, .string text)])])] =>
    some [k, a, l, n, key, text]
  | _ => none

/-- The file of the profiles that are left reads back. -/
private theorem setProfiles_readsBack : setProfiles.toDocument.ReadsBack := by
  have htexts : textsOfPointed (Toml.read? setProfiles.render) =
      some ["active", "default", "profiles", "default", "PORT", "90"] := by decide +kernel
  unfold textsOfPointed at htexts
  split at htexts
  · next hread =>
    cases htexts
    exact ⟨_, hread, rfl⟩
  · cases htexts

/-- A port is set under a deprecated name and under its own, and the settings viewed then show it.
-/
theorem view_after_set_of_port :
    let pointer := "active = \"default\"\n\n"
    (portSet pointer).1 = .ok doneCode ∧ (portViewed pointer).1 = .ok doneCode ∧
      ∃ s, (portViewed pointer).2.lines = "PREFECT_PROFILE='default'" ::
          (ViewOptions.listed ⟨false, false, true⟩ s).map (entryLine ⟨false, false, true⟩) ∧
        (ViewOptions.listed ⟨false, false, true⟩ s).filter (·.name = "PORT") =
          [⟨"PORT", some (.integer 90), .profile⟩] := by
  intro pointer
  have hbuild : Registry.build "" none plainSession.registry.definitions =
      .ok plainSession.registry := by
    have hsound : plainSession.registry.fault? = none := by decide +kernel
    exact congrArg (fun found : Option RegistryFault =>
      found.elim (Except.ok plainSession.registry) (Except.error ·.toError)) hsound
  have hset : (portSet pointer).1 = .ok doneCode := by decide +kernel
  have hview : (portViewed pointer).1 = .ok doneCode := by decide +kernel
  refine ⟨hset, hview, ?_⟩
  obtain ⟨sets, c, changed, hparse, hload, happly, hviewed⟩ := view_after_set hbuild rfl hset
  have hsets : ["OLD_PORT=80", "PORT=90"].mapM assignment =
      .ok [("OLD_PORT", .text "80"), ("PORT", .text "90")] := by decide +kernel
  have hfound : Store.loadFrom (Store.takeLock plainSession.path (profileFiles pointer)).2
      plainSession.path = .ok .withDefault := by decide +kernel
  have hmade : (Command.set ["OLD_PORT=80", "PORT=90"]).apply plainSession .withDefault =
      .ok setProfiles := by decide +kernel
  cases hparse.symm.trans hsets
  cases hload.symm.trans hfound
  cases happly.symm.trans hmade
  obtain ⟨s, hlines, hlisted⟩ :=
    hviewed setProfiles_readsBack none (.start none) ⟨false, false, true⟩ rfl hview
  let port : Definition := { name := "PORT", kind := .integer, aliases := ["OLD_PORT"] }
  obtain ⟨-, hport⟩ := hlisted port List.mem_cons_self (.text "90") (by decide +kernel)
  refine ⟨s, hlines, ?_⟩
  generalize (ViewOptions.listed ⟨false, false, true⟩ s).filter (·.name = "PORT") = shown at hport ⊢
  cases hport with
  | environment htext hcast =>
    have hnone : plainSession.env.lookup? plainSession.registry port = none := by decide +kernel
    rw [htext.lookup?_eq] at hnone
    cases hnone
  | profile henv hread hcast =>
    have hvalue : port.cast plainSession.registry.home (.text "90") = .ok (.integer 90) := by
      decide +kernel
    rw [Except.ok.inj (hcast.symm.trans hvalue)]
  | unread henv hread => cases hread

/-- Where no profile is chosen and none is active, a value is stored without a warning and a view
that is done does not list it. -/
theorem assigned_value_not_listed :
    (portSet "").1 = .ok doneCode ∧ (portViewed "").1 = .ok doneCode ∧
      (portSet "").2.lines = ["Set 'PORT' to '80'.", "Set 'PORT' to '90'.",
        "Updated profile 'default'."] ∧
      (portViewed "").2.lines = ["PREFECT_PROFILE=''"] := by
  decide +kernel

end CommandLine

end LayeredSettings
