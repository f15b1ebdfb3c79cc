import LayeredSettings.Session
import LayeredSettings.Proofs.Profile.Checked
import LayeredSettings.Proofs.Registry.Variables
import LayeredSettings.Proofs.Settings.Refusals

/-!
# Where the profiles file is found

The profiles file is located in an environment cut down to the variables of a few settings. What the
kept settings hold is then what they hold in the whole environment, if their templates refer to one
another only. Resolving in the cut-down environment cannot fail, whatever the variables hold, if
they are read for settings only that take any text. The built-in catalog is of this sort.
-/

namespace LayeredSettings

variable {r : Registry} {env other : Environment} {keys : List String} {d : Definition}
  {s t : Settings}

namespace Registry

/-- The settings that some keys belong to. -/
def settingsOf (r : Registry) (keys : List String) : List Definition := keys.filterMap r.find?

/-- The variables bound to the settings that some keys belong to. -/
def variablesOf (r : Registry) (keys : List String) : List String :=
  (r.settingsOf keys).flatMap r.variableNames

/-- The templates of some settings refer to one another only. -/
def ReferWithin (r : Registry) (keys : List String) : Prop :=
  ∀ d ∈ r.settingsOf keys, ∀ reference ∈ d.references, ∀ target,
    r.find? reference = some target → target ∈ r.settingsOf keys

/-- The variables bound to some settings are read for settings only that have a template. -/
def ReadForTemplates (r : Registry) (keys : List String) : Prop :=
  ∀ d ∈ r.definitions, (∃ name ∈ r.variableNames d, name ∈ r.variablesOf keys) →
    d.template?.isSome

/-- The settings that keys belong to are those of the registry. -/
theorem mem_definitions_of_settingsOf (hd : d ∈ r.settingsOf keys) : d ∈ r.definitions := by
  obtain ⟨key, -, hfind⟩ := List.mem_filterMap.mp hd
  exact List.mem_of_find?_eq_some hfind

/-- A variable of one of the settings is one of theirs. -/
theorem mem_variablesOf (hd : d ∈ r.settingsOf keys) {name : String}
    (hname : name ∈ r.variableNames d) : name ∈ r.variablesOf keys :=
  List.mem_flatMap.mpr ⟨d, hd, hname⟩

end Registry

namespace Environment

/-- The variables of some settings are those of the environment that are bound to them. -/
theorem get?_only (env : Environment) (r : Registry) (keys : List String) (name : String) :
    NameMap.get? (env.only r keys) name =
      if name ∈ r.variablesOf keys then env.get? name else none := by
  unfold only
  rw [NameMap.get?_filter]
  simp only [List.contains_iff_mem]
  rfl

/-- Environments with the same variables of some settings are the same when cut down to them. -/
theorem only_congr (hsame : ∀ name ∈ r.variablesOf keys, env.get? name = other.get? name) :
    env.only r keys = other.only r keys := by
  refine NameMap.eq_of_get?_eq fun name => ?_
  rw [get?_only, get?_only]
  split
  · next hname => exact hsame name hname
  · rfl

/-- A setting that the environment is cut down to is looked up as in the whole environment. -/
theorem lookup?_only_of_mem (env : Environment) (hd : d ∈ r.settingsOf keys) :
    (env.only r keys).lookup? r d = env.lookup? r d := by
  refine lookup?_congr fun name hname => ?_
  rw [get?_only, if_pos (Registry.mem_variablesOf hd hname)]

/-- A setting whose text is still there has a variable that was kept. -/
theorem exists_mem_of_supplies_only {text : String} (h : (env.only r keys).Supplies r d text) :
    ∃ name ∈ r.variableNames d, name ∈ r.variablesOf keys := by
  by_contra hnone
  have habsent : (env.only r keys).lookup? r d = none := by
    refine List.findSome?_eq_none_iff.mpr fun name hname => ?_
    rw [get?_only, if_neg fun hkept => hnone ⟨name, hname, hkept⟩]
  rw [h.lookup?_eq] at habsent
  cases habsent

end Environment

/-- Settings whose templates refer to one another only draw on no others. -/
theorem Registry.ReferWithin.not_drawsOn (h : r.ReferWithin keys) :
    ¬ s.DrawsOn r (fun d => d ∉ r.settingsOf keys) d := by
  intro hdraws
  induction hdraws with
  | direct hunchanged hrefers hchanged =>
    obtain ⟨-, reference, href, hfind⟩ := hrefers
    exact hchanged (h _ (not_not.mp hunchanged) reference href _ hfind)
  | through _ _ _ ih => exact ih

/-- Settings whose templates refer to one another only hold in an environment cut down to them what
they hold in the whole environment. -/
theorem get?_resolve_only (h : r.Consistent) (hwithin : r.ReferWithin keys) {c : Collection}
    {profile : Option String} {overrides : Overrides}
    (hs : resolve r env c profile overrides = .ok s)
    (ht : resolve r (env.only r keys) c profile overrides = .ok t) (hd : d ∈ r.settingsOf keys) :
    s.get? d.name = t.get? d.name := by
  obtain ⟨chosen, named, hchosen, hnamed, -, hs⟩ := resolve_eq_ok hs
  obtain ⟨chosen', named', hchosen', hnamed', -, ht⟩ := resolve_eq_ok ht
  cases hchosen.symm.trans hchosen'
  cases hnamed.symm.trans hnamed'
  change expandTemplates r (mergedEntries r (storedValues r chosen) env named) = _ at hs
  change expandTemplates r (mergedEntries r (storedValues r chosen) (env.only r keys) named) = _
    at ht
  refine Settings.get?_eq_of_not_drawsOn h (map_name_mergedEntries _ _ _)
    (map_name_mergedEntries _ _ _) hs ht (fun e he hsame => ?_)
    (Registry.mem_definitions_of_settingsOf hd) (not_not.mpr hd) hwithin.not_drawsOn
  have hlookup := Environment.lookup?_only_of_mem env (not_not.mp hsame)
  rw [get?_mergedEntries h he, get?_mergedEntries h he]
  unfold supplies
  rw [hlookup]

/-- Where templates are plain, resolving succeeds in any environment cut down to variables that are
read for settings with templates only. -/
theorem exists_resolve_only (h : r.Consistent) (hplain : r.PlainTemplates)
    (hread : r.ReadForTemplates keys) (env : Environment) :
    ∃ t, resolve r (env.only r keys) .empty none .empty = .ok t := by
  have hfits : r.AllFit (env.only r keys) none .empty := by
    intro d hd source reason hrefuses
    cases hrefuses with
    | profile hchosen _ _ => cases hchosen
    | environment htext hcast =>
      have htemplate := hread d hd (Environment.exists_mem_of_supplies_only htext)
      obtain ⟨value, hvalue⟩ := hplain.exists_cast hd htemplate (.text _)
      cases hvalue.symm.trans hcast
    | override hgiven _ =>
      obtain ⟨key, -, hvalue, -⟩ := hgiven
      cases hvalue
  obtain ⟨final, hfinal⟩ := exists_expanded_of_plain h hplain
    (mergedEntries r (storedValues r none) (env.only r keys) .empty)
  have hchosen : chosenProfile .empty none = .ok none := rfl
  have hnamed : canonicalOverrides r .empty = .ok .empty := rfl
  refine ⟨⟨final⟩, ?_⟩
  rw [resolve_eq_of_allFit hchosen hnamed h hfits, hfinal]
  rfl

/-- A setting for paths casts what it is given to a path. -/
theorem exists_path_of_cast (hkind : d.kind = .path) {home : Home} {raw : Raw} {value : Value}
    (hcast : d.cast home raw = .ok value) : ∃ path, value = .path path := by
  obtain ⟨found, hfound, hcast⟩ := bind_eq_ok hcast
  obtain ⟨_, -, hcast⟩ := bind_eq_ok hcast
  cases hcast
  rw [hkind] at hfound
  exact ⟨home.expand raw.toText, (Except.ok.inj hfound).symm⟩

/-- After a resolution without overrides a setting for paths with a template holds a path. -/
theorem exists_path_of_resolve (h : r.Consistent) (hd : d ∈ r.definitions) (hkind : d.kind = .path)
    (htemplate : d.template?.isSome) {c : Collection} {profile : Option String}
    (hok : resolve r env c profile .empty = .ok s) :
    ∃ path, s.value? d.name = some (.path path) := by
  obtain ⟨chosen, named, hchosen, -, -, hentries⟩ := resolve_eq_ok hok
  obtain ⟨horder, -, -⟩ := solves_of_expandTemplates h (map_name_mergedEntries _ _ _) hentries
  obtain ⟨e, he, -⟩ := Settings.exists_get?_of_names horder hd
  have hvalue : s.value? d.name = e.value := by
    unfold Settings.value?
    rw [he]
    rfl
  rw [hvalue]
  cases comesFrom_of_resolve h hd (selects_of_chosenProfile hchosen) hok he with
  | environment _ hcast | profile _ _ hcast | template _ _ hcast =>
    obtain ⟨path, rfl⟩ := exists_path_of_cast hkind hcast
    exact ⟨path, rfl⟩
  | fixed hnone _ _ => simp [hnone] at htemplate

/-- A registry in which nothing but the settings that locate the profiles file matters to where it
is, and no text for them is refused. -/
structure Registry.LocatesProfiles (r : Registry) : Prop where
  /-- The keys of settings differ, and templates refer to settings. -/
  consistent : r.Consistent
  /-- Templates give a value whatever they are filled with. -/
  plain : r.PlainTemplates
  /-- The locating settings refer to one another only. -/
  within : r.ReferWithin locatingSettings
  /-- Their variables are read for settings that take any text. -/
  read : r.ReadForTemplates locatingSettings
  /-- One of them is the place of the file, a path with a template. -/
  place : ∃ d ∈ r.settingsOf locatingSettings, d.name = profilesPathSetting ∧ d.kind = .path ∧
    d.template?.isSome

namespace Session

/-- The place of the profiles file is the path that is found for it. -/
theorem discover_eq_ok {path : Path} (profile : Option String)
    (hok : locatingResult r env = .ok t)
    (hpath : t.value? profilesPathSetting = some (.path path)) :
    discover r env profile = .ok ⟨r, env, path, profile⟩ := by
  unfold discover
  rw [hok]
  simp only [bind, Except.bind, hpath, Option.bind_some, Value.asPath?]
  rfl

/-- Where nothing else matters the profiles file is found, and it is where the setting for it says
in the whole environment, if this resolves. -/
theorem exists_discover (h : r.LocatesProfiles) (env : Environment) (profile : Option String) :
    ∃ path, discover r env profile = .ok ⟨r, env, path, profile⟩ ∧
      ∀ s, resolve r env .empty none .empty = .ok s →
        s.value? profilesPathSetting = some (.path path) := by
  obtain ⟨d, hd, hname, hkind, htemplate⟩ := h.place
  obtain ⟨t, ht⟩ := exists_resolve_only h.consistent h.plain h.read env
  obtain ⟨path, hpath⟩ := exists_path_of_resolve h.consistent
    (Registry.mem_definitions_of_settingsOf hd) hkind htemplate ht
  refine ⟨path, discover_eq_ok profile ht (hname ▸ hpath), fun s hs => ?_⟩
  have hsame : s.get? d.name = t.get? d.name := get?_resolve_only h.consistent h.within hs ht hd
  unfold Settings.value? at hpath ⊢
  rw [← hname, hsame, hpath]

/-- The answer depends on no variable but those of the locating settings, except that the session
carries its environment. -/
theorem discover_congr
    (hsame : ∀ name ∈ r.variablesOf locatingSettings, env.get? name = other.get? name)
    (profile : Option String) : discover r other profile =
      (discover r env profile).map fun session => { session with env := other } := by
  have hresult : locatingResult r other = locatingResult r env := by
    unfold locatingResult
    rw [Environment.only_congr hsame]
  unfold discover
  rw [hresult]
  cases locatingResult r env with
  | error e => rfl
  | ok t =>
    simp only [bind, Except.bind]
    cases (t.value? profilesPathSetting).bind Value.asPath? <;> rfl

end Session

/-- The built-in profiles file is located by the home of the program and its own setting. -/
theorem Registry.variablesOf_builtin (home : Home) :
    (builtin home).variablesOf locatingSettings = ["PREFECT_HOME", "PREFECT_PROFILES_PATH"] := by
  change (builtin none).variablesOf locatingSettings = _
  decide +kernel

/-- In the built-in catalog nothing else matters to where the profiles file is. -/
theorem Registry.locatesProfiles_builtin (home : Home) : (builtin home).LocatesProfiles where
  consistent := (consistent_of_build (build_builtin home)).2
  plain := plainTemplates_builtin home
  within := by
    have hwithin : ∀ d ∈ (builtin none).settingsOf locatingSettings, ∀ reference ∈ d.references,
        reference ∈ locatingSettings := by decide +kernel
    intro d hd reference href target hfind
    exact List.mem_filterMap.mpr ⟨reference, hwithin d hd reference href, hfind⟩
  read := by
    have hread : ∀ d ∈ builtinDefinitions, (∃ name ∈ (builtin none).variableNames d,
        name ∈ ["PREFECT_HOME", "PREFECT_PROFILES_PATH"]) → d.template?.isSome := by
      decide +kernel
    intro d hd hkept
    rw [variablesOf_builtin] at hkept
    exact hread d hd hkept
  place := by
    have hd : builtinDefinitions[3] ∈ (builtin home).definitions := List.getElem_mem _
    have hfind : (builtin home).find? profilesPathSetting = some builtinDefinitions[3] :=
      (consistent_of_build (build_builtin home)).2.find?_eq_some_iff.mpr ⟨hd, List.mem_cons_self⟩
    have hkept : builtinDefinitions[3] ∈ (builtin home).settingsOf locatingSettings :=
      List.mem_filterMap.mpr ⟨profilesPathSetting, by decide, hfind⟩
    exact ⟨_, hkept, rfl, rfl, rfl⟩

/-- With the built-in settings the profiles file is found in every environment, whatever is wrong
with the values of variables, and it is where the setting for it says if the environment resolves.
Only the variables of the home of the program and of that setting make a difference to where it is.
-/
theorem profiles_file_found (home : Home) :
    let r := Registry.builtin home
    Registry.build builtinPrefix home builtinDefinitions = .ok r ∧
    r.variablesOf locatingSettings = ["PREFECT_HOME", "PREFECT_PROFILES_PATH"] ∧
    ∀ (env : Environment) (profile : Option String),
      (∃ path, Session.discover r env profile = .ok ⟨r, env, path, profile⟩ ∧
        ∀ s, resolve r env .empty none .empty = .ok s →
          s.value? profilesPathSetting = some (.path path)) ∧
      ∀ other : Environment,
        (∀ name ∈ r.variablesOf locatingSettings, env.get? name = other.get? name) →
        Session.discover r other profile =
          (Session.discover r env profile).map fun session => { session with env := other } := by
  intro r
  have h : r.LocatesProfiles := Registry.locatesProfiles_builtin home
  refine ⟨Registry.build_builtin home, Registry.variablesOf_builtin home, fun env profile => ?_⟩
  exact ⟨Session.exists_discover h env profile,
    fun other hsame => Session.discover_congr hsame profile⟩

/-- The profiles file is below the home of the program, also if a port is set that is none, though
then the environment does not resolve. -/
theorem profiles_file_found_of_home :
    let r := Registry.builtin none
    let env : Environment := .ofList [("PREFECT_HOME", "/opt/prefect")]
    let broken : Environment := .ofList [("PREFECT_HOME", "/opt/prefect"),
      ("PREFECT_ORION_API_PORT", "not-a-port")]
    let path : Path := ⟨"/opt/prefect/profiles.toml"⟩
    ∃ s failures, resolve r env .empty none .empty = .ok s ∧
      s.value? profilesPathSetting = some (.path path) ∧
      Session.discover r env none = .ok ⟨r, env, path, none⟩ ∧
      (∀ name ∈ r.variablesOf locatingSettings, env.get? name = broken.get? name) ∧
      resolve r broken .empty none .empty = .error (.validation failures) ∧
      ⟨"PREFECT_ORION_API_PORT", .notInteger⟩ ∈ failures ∧
      Session.discover r broken none = .ok ⟨r, broken, path, none⟩ := by
  intro r env broken path
  obtain ⟨hbuild, hvariables, hfound⟩ := profiles_file_found none
  obtain ⟨⟨found, hdiscover, hplace⟩, hsame⟩ := hfound env none
  have hvalue : (resolve r env .empty none .empty).map (·.value? profilesPathSetting) =
      .ok (some (.path path)) := by decide +kernel
  obtain ⟨s, hs, hpath⟩ : ∃ s, resolve r env .empty none .empty = .ok s ∧
      s.value? profilesPathSetting = some (.path path) := by
    cases hs : resolve r env .empty none .empty with
    | error e =>
      rw [hs] at hvalue
      cases hvalue
    | ok s =>
      rw [hs] at hvalue
      exact ⟨s, rfl, Except.ok.inj hvalue⟩
  obtain rfl : path = found := by simpa [hpath] using hplace s hs
  have hagree : ∀ name ∈ r.variablesOf locatingSettings, env.get? name = broken.get? name := by
    rw [hvariables]
    decide +kernel
  have hbroken := hsame broken hagree
  rw [hdiscover] at hbroken
  obtain ⟨-, h⟩ := Registry.consistent_of_build hbuild
  have hport : builtinDefinitions[23] ∈ r.definitions := List.getElem_mem _
  have hsupplied : Raw.Supplied r broken none builtinDefinitions[23] (.text "not-a-port") :=
    .environment (.named (by decide +kernel))
  have hrefused : builtinDefinitions[23].cast none (.text "not-a-port") = .error .notInteger := by
    decide +kernel
  have hchosen : Collection.empty.Selects none none := .nothing rfl
  obtain ⟨supply, hmem, houtcome⟩ := hsupplied.exists_supply h hport
  obtain ⟨failures, hfailed, hfailure⟩ :=
    resolve_of_refused hport hchosen hmem (houtcome.trans hrefused)
  exact ⟨s, failures, hs, hpath, hdiscover, hagree, hfailed, hfailure, hbroken⟩

end LayeredSettings
