import LayeredSettings.Context.Request
import LayeredSettings.Proofs.Settings.Layering
import LayeredSettings.Proofs.Settings.Precedence

/-!
# Values in effect are valid

A value comes into a snapshot as what a raw value is cast to, as an override, as what a template
gives, or as a fixed default. All but the last are checked on the way. So where fixed defaults pass
the checks of their own definitions, each value of a resolved snapshot passes that of its
definition, and so it stays whatever is layered on the snapshot afterwards.
-/

namespace LayeredSettings

variable {r : Registry} {d : Definition} {e : Entry}

/-- Every fixed default passes the check of its own definition. -/
def Registry.FixedDefaultsFit (r : Registry) : Prop :=
  ∀ d ∈ r.definitions, ∀ value, d.defaultValue = .fixed value → d.validate value = .ok ()

/-- An entry that a definition admits: its value passes the check, and it lacks a value only where
no layer supplied one and there is no default. -/
structure Definition.Admits (d : Definition) (e : Entry) : Prop where
  /-- The entry is that of the definition. -/
  name_eq : e.name = d.name
  /-- The value is of the right kind and passes the check. -/
  valid : ∀ value, e.value = some value → d.validate value = .ok ()
  /-- Without a value the entry is at its default, which is unset. -/
  unset : e.value = none → d.defaultValue = .unset ∧ e.source = .default

/-- A snapshot with one entry for each definition, which the definition admits. -/
structure Settings.Valid (s : Settings) (r : Registry) : Prop where
  /-- The entries stand in the order of the registry, one for each definition. -/
  order : s.entries.map (·.name) = r.names
  /-- An entry is the one found under its name, and its definition admits it. -/
  admitted : ∀ e ∈ s.entries, s.get? e.name = some e ∧ ∃ d ∈ r.definitions, d.Admits e

/-- Snapshots that come from a resolution, with any overrides and profiles layered on them. -/
inductive Settings.Obtained (r : Registry) : Settings → Prop
  | resolved {env : Environment} {c : Collection} {profile : Option String}
      {overrides : Overrides} {s : Settings} (hok : resolve r env c profile overrides = .ok s) :
      Obtained r s
  | layered {s l : Settings} {overrides : Overrides} (hs : Obtained r s)
      (hok : s.layer r overrides = .ok l) : Obtained r l
  | layeredProfile {s l : Settings} {p : Profile} (hs : Obtained r s)
      (hok : s.layerProfile r p = .ok l) : Obtained r l

/-- Contexts that are made of such snapshots, and contexts that are built from any sources or made
temporarily while one of them, or none, is current. -/
inductive SettingsContext.Built (r : Registry) : SettingsContext → Prop
  | made {s : Settings} {profile : Option String} (hs : s.Obtained r) : Built r ⟨s, profile⟩
  | requested {env : Environment} {c : Collection}
      {parent : Except SettingsError SettingsContext} {request : Request}
      {context : SettingsContext} (hparent : ∀ current, parent = .ok current → Built r current)
      (hok : Sources.build ⟨r, env, c⟩ parent request = .ok context) : Built r context
  | temporary {env : Environment} {c : Collection}
      {parent : Except SettingsError SettingsContext} {overrides : Overrides}
      {context : SettingsContext} (hparent : ∀ current, parent = .ok current → Built r current)
      (hok : Sources.temporary ⟨r, env, c⟩ parent overrides = .ok context) : Built r context

/-- What a raw value is cast to has passed the check. -/
theorem Definition.validate_of_cast {home : Home} {raw : Raw} {value : Value}
    (hok : d.cast home raw = .ok value) : d.validate value = .ok () := by
  obtain ⟨found, -, hok⟩ := bind_eq_ok hok
  obtain ⟨_, hvalid, hok⟩ := bind_eq_ok hok
  cases hok
  exact hvalid

/-- An override that is supplied as a value has passed the check. -/
theorem Definition.validate_of_map {given value : Value}
    (hok : ((d.validate given).map fun _ => given) = .ok value) : d.validate value = .ok () := by
  cases hvalid : d.validate given with
  | error reason => simp [hvalid, Except.map] at hok
  | ok u =>
    have hsame : given = value := by simpa [hvalid, Except.map] using hok
    rw [← hsame, hvalid]

/-- A value that any layer supplies has passed the check. -/
theorem validate_of_mem_supplies {stored : NameMap Raw} {env : Environment}
    {named : NameMap Value} {supply : Supply} (hmem : supply ∈ supplies r stored env named d)
    {value : Value} (hvalue : supply.outcome = .ok value) : d.validate value = .ok () := by
  unfold supplies at hmem
  simp only [List.mem_append, Option.mem_toList] at hmem
  rcases hmem with (hmem | hmem) | hmem
  · obtain ⟨raw, -, rfl⟩ := Option.map_eq_some_iff.mp hmem
    exact Definition.validate_of_cast hvalue
  · obtain ⟨text, -, rfl⟩ := Option.map_eq_some_iff.mp hmem
    exact Definition.validate_of_cast hvalue
  · obtain ⟨given, -, rfl⟩ := Option.map_eq_some_iff.mp hmem
    exact Definition.validate_of_map hvalue

/-- A definition admits its entry with a value that passes the check. -/
theorem Definition.admits_of_validate {value : Value} (hvalid : d.validate value = .ok ())
    (source : Source) : d.Admits ⟨d.name, some value, source⟩ where
  name_eq := rfl
  valid other hother := Option.some.inj hother ▸ hvalid
  unset hnone := by cases hnone

/-- Where all that is supplied fits, the merged entry is the default one or is admitted. -/
theorem admits_mergedEntry {stored : NameMap Raw} {env : Environment} {named : NameMap Value}
    (hfits : ∀ supply ∈ supplies r stored env named d, ∃ value, supply.outcome = .ok value) :
    mergedEntry d (supplies r stored env named d) = d.defaultEntry ∨
      d.Admits (mergedEntry d (supplies r stored env named d)) := by
  rcases List.eq_nil_or_concat' (supplies r stored env named d) with hnone | ⟨lower, last, hsplit⟩
  · rw [hnone]
    exact Or.inl (mergedEntry_nil d)
  · have hmem : last ∈ supplies r stored env named d := by rw [hsplit]; simp
    obtain ⟨value, hvalue⟩ := hfits last hmem
    have hlast : last = ⟨last.source, .ok value⟩ := by rw [← hvalue]
    rw [hsplit, hlast, mergedEntry_concat]
    exact Or.inr (Definition.admits_of_validate (validate_of_mem_supplies hmem hvalue) _)

/-- The default entry of a definition without a template is admitted if a fixed default passes the
check. -/
theorem Definition.admits_defaultEntry (htemplate : d.template? = none)
    (hfixed : ∀ value, d.defaultValue = .fixed value → d.validate value = .ok ()) :
    d.Admits d.defaultEntry := by
  cases hdefault : d.defaultValue with
  | unset =>
    have hentry : d.defaultEntry = ⟨d.name, none, .default⟩ := by
      unfold Definition.defaultEntry
      rw [hdefault]
    rw [hentry]
    exact ⟨rfl, by simp, fun _ => ⟨hdefault, rfl⟩⟩
  | fixed value =>
    have hentry : d.defaultEntry = ⟨d.name, some value, .default⟩ := by
      unfold Definition.defaultEntry
      rw [hdefault]
    rw [hentry]
    exact admits_of_validate (hfixed value hdefault) .default
  | template text => simp [Definition.template?, hdefault] at htemplate

namespace Settings

variable {s l : Settings}

/-- A snapshot is valid if its entries stand in the order of the registry and what is found under
the name of each definition is admitted. -/
theorem Valid.of_get? (h : r.Consistent) (horder : s.entries.map (·.name) = r.names)
    (hadmits : ∀ d ∈ r.definitions, ∀ e, s.get? d.name = some e → d.Admits e) : s.Valid r where
  order := horder
  admitted := by
    intro e he
    obtain ⟨d, hd, hname, hfound⟩ := exists_definition_of_mem h horder he
    exact ⟨hname ▸ hfound, d, hd, hadmits d hd e hfound⟩

/-- What a definition of a valid snapshot finds under its name is admitted. -/
theorem Valid.admits (hs : s.Valid r) (h : r.Consistent) (hd : d ∈ r.definitions)
    (hget : s.get? d.name = some e) : d.Admits e := by
  obtain ⟨hmem, hname⟩ := (get?_eq_some_iff (hs.order ▸ h.nodup_names)).mp hget
  obtain ⟨-, found, hfound, hadmits⟩ := hs.admitted e hmem
  rwa [h.eq_of_name_eq hfound hd (hadmits.name_eq.symm.trans hname)] at hadmits

/-- After a successful resolution the snapshot is valid. -/
theorem valid_of_resolve (h : r.Consistent) (hdefaults : r.FixedDefaultsFit) {env : Environment}
    {c : Collection} {profile : Option String} {overrides : Overrides}
    (hok : resolve r env c profile overrides = .ok s) : s.Valid r := by
  obtain ⟨chosen, named, -, -, hfits, hentries⟩ := resolve_eq_ok hok
  change expandTemplates r (mergedEntries r (storedValues r chosen) env named) = _ at hentries
  have hnames := map_name_mergedEntries (r := r) (storedValues r chosen) env named
  obtain ⟨horder, -, -⟩ := solves_of_expandTemplates h hnames hentries
  refine .of_get? h horder fun d hd e hget => ?_
  by_cases hopen : Expansion.isOpen (mergedEntries r (storedValues r chosen) env named) d
  · obtain ⟨value, hvalue, hcast⟩ := get?_of_isOpen h hnames hentries hd hopen
    rw [hget] at hvalue
    rw [Option.some.inj hvalue]
    exact Definition.admits_of_validate (Definition.validate_of_cast hcast) .default
  · rw [get?_of_not_isOpen h hnames hentries hd hopen, get?_mergedEntries h hd] at hget
    rw [← Option.some.inj hget]
    rcases admits_mergedEntry (hfits d hd) with hmerged | hadmits
    · have hnone : d.template? = none :=
        template?_eq_none_of_not_isOpen h hd hopen (hmerged ▸ d.defaultEntry_source)
      rw [hmerged]
      exact Definition.admits_defaultEntry hnone (hdefaults d hd)
    · exact hadmits

/-- A layer that supplies for an entry only values that pass the check of its definition keeps a
snapshot valid. -/
theorem Valid.layerWith (hs : s.Valid r) (h : r.Consistent)
    {supply : Entry → Option (Definition × Supply)}
    (hsupply : ∀ e target given, supply e = some (target, given) → r.find? e.name = some target ∧
      ∀ value, given.outcome = .ok value → target.validate value = .ok ())
    (hok : s.layerWith supply = .ok l) : l.Valid r := by
  have horder : l.entries.map (·.name) = r.names := (map_name_of_layerWith hok).trans hs.order
  refine .of_get? h horder fun d hd e hget => ?_
  rw [get?_of_layerWith hok] at hget
  obtain ⟨before, hbefore, hentry⟩ := Option.map_eq_some_iff.mp hget
  have hadmits : d.Admits before := hs.admits h hd hbefore
  obtain ⟨hnone, -⟩ := layerWith_eq_ok_iff.mp hok
  have hmem : before ∈ s.entries := List.mem_of_find?_eq_some hbefore
  cases hgiven : supply before with
  | none =>
    rw [hgiven] at hentry
    exact hentry ▸ hadmits
  | some found =>
    obtain ⟨target, given⟩ := found
    obtain ⟨hfind, hvalid⟩ := hsupply before target given hgiven
    have hname : d.name ∈ target.keys := hadmits.name_eq ▸ (h.find?_eq_some_iff.mp hfind).2
    have htarget : target = d := h.eq_of_shared_key (h.find?_eq_some_iff.mp hfind).1 hd hname
      List.mem_cons_self
    have hfits := hnone before hmem
    rw [hgiven] at hentry hfits
    obtain ⟨value, hvalue⟩ := supplyFailures_eq_nil_iff.mp hfits given List.mem_cons_self
    have htaken : before.accept given = ⟨d.name, some value, given.source⟩ := by
      unfold Entry.accept
      rw [hvalue, ← hadmits.name_eq]
    rw [← hentry]
    change d.Admits (before.accept given)
    rw [htaken]
    exact Definition.admits_of_validate (htarget ▸ hvalid value hvalue) given.source

/-- Overrides on a valid snapshot keep it valid. -/
theorem Valid.layer (hs : s.Valid r) (h : r.Consistent) {overrides : Overrides}
    (hok : s.layer r overrides = .ok l) : l.Valid r := by
  obtain ⟨named, -, hok⟩ := bind_eq_ok hok
  refine hs.layerWith h (fun e target given hgiven => ?_) hok
  obtain ⟨found, hfind, hgiven⟩ := Option.bind_eq_some_iff.mp hgiven
  obtain ⟨value, -, hgiven⟩ := Option.bind_eq_some_iff.mp hgiven
  cases hgiven
  exact ⟨hfind, fun _ hvalue => Definition.validate_of_map hvalue⟩

/-- The values of a profile on a valid snapshot keep it valid. -/
theorem Valid.layerProfile (hs : s.Valid r) (h : r.Consistent) {p : Profile}
    (hok : s.layerProfile r p = .ok l) : l.Valid r := by
  refine hs.layerWith h (fun e target given hgiven => ?_) hok
  obtain ⟨_, -, hgiven⟩ := Option.bind_eq_some_iff.mp hgiven
  obtain ⟨found, hfind, hgiven⟩ := Option.bind_eq_some_iff.mp hgiven
  obtain ⟨raw, -, hgiven⟩ := Option.bind_eq_some_iff.mp hgiven
  cases hgiven
  exact ⟨hfind, fun _ hvalue => Definition.validate_of_cast hvalue⟩

/-- However a snapshot is obtained, it is valid. -/
theorem Obtained.valid (hs : s.Obtained r) (h : r.Consistent) (hdefaults : r.FixedDefaultsFit) :
    s.Valid r := by
  induction hs with
  | resolved hok => exact valid_of_resolve h hdefaults hok
  | layered _ hok ih => exact ih.layer h hok
  | layeredProfile _ hok ih => exact ih.layerProfile h hok

end Settings

/-- The settings of a context are a snapshot with any overrides and profiles layered on it. -/
theorem SettingsContext.Built.obtained {context : SettingsContext} (hbuilt : context.Built r) :
    context.settings.Obtained r := by
  induction hbuilt with
  | made hs => exact hs
  | @requested env c parent request context _ hok ih =>
    unfold Sources.build at hok
    dsimp only at hok
    split at hok
    · obtain ⟨current, hparent, hok⟩ := bind_eq_ok hok
      cases hprofile : request.profile with
      | none =>
        rw [hprofile] at hok
        obtain ⟨s, hs, hok⟩ := bind_eq_ok hok
        cases hok
        exact .layered (ih current hparent) hs
      | some name =>
        rw [hprofile] at hok
        obtain ⟨p, -, hok⟩ := bind_eq_ok hok
        obtain ⟨below, hbelow, hok⟩ := bind_eq_ok hok
        obtain ⟨s, hs, hok⟩ := bind_eq_ok hok
        cases hok
        exact .layered (.layeredProfile (ih current hparent) hbelow) hs
    · obtain ⟨s, hs, hok⟩ := bind_eq_ok hok
      cases hok
      exact .resolved hs
  | temporary _ hok ih =>
    obtain ⟨current, hparent, hok⟩ := bind_eq_ok hok
    obtain ⟨s, hs, hok⟩ := bind_eq_ok hok
    cases hok
    exact .layered (ih current hparent) hs

/-- Where fixed defaults fit, every snapshot that is resolved is valid and stays so under whatever
overrides and profiles, and so are the settings of every context that is built from it. -/
theorem settings_in_effect_valid {envPrefix : String} {home : Home}
    {definitions : List Definition}
    (hbuild : Registry.build envPrefix home definitions = .ok r)
    (hdefaults : r.FixedDefaultsFit) :
    (∀ s : Settings, s.Obtained r → s.Valid r) ∧
      ∀ context : SettingsContext, context.Built r → context.settings.Valid r := by
  obtain ⟨-, h⟩ := Registry.consistent_of_build hbuild
  exact ⟨fun s hs => hs.valid h hdefaults, fun context hbuilt => hbuilt.obtained.valid h hdefaults⟩

/-- A port from a profile, and on top of it a context with another host under its old name. -/
theorem settings_in_effect_valid_of_address :
    ∃ r s l context, Registry.build "" none addressCatalog = .ok r ∧ r.FixedDefaultsFit ∧
      resolve r .empty .empty none .empty = .ok s ∧ s.layerProfile r portProfile = .ok l ∧
      Sources.build ⟨r, .empty, .empty⟩ (.ok ⟨l, none⟩)
        ⟨true, none, .ofList [("SERVER", .string "db")]⟩ = .ok context ∧
      l.value? "PORT" = some (.integer 8080) ∧ l.Valid r ∧
      context.settings.value? "HOST" = some (.string "db") ∧ context.settings.Valid r := by
  let r : Registry := ⟨"", none, addressCatalog⟩
  let url : Entry := ⟨"URL", some (.string "http://localhost:80/"), .default⟩
  let address : Entry := ⟨"ADDRESS", some (.string "localhost:80"), .default⟩
  let host : Entry := ⟨"HOST", some (.string "localhost"), .default⟩
  let port : Entry := ⟨"PORT", some (.integer 8080), .profile⟩
  have hdefaults : r.FixedDefaultsFit := by
    intro d hd value hfixed
    simp only [r, addressCatalog, List.mem_cons, List.not_mem_nil, or_false] at hd
    rcases hd with rfl | rfl | rfl | rfl
    · cases hfixed
    · cases hfixed
    · cases hfixed
      rfl
    · cases hfixed
      decide +kernel
  have hs : resolve r .empty .empty none .empty = .ok
      ⟨[url, address, host, ⟨"PORT", some (.integer 80), .default⟩]⟩ := by decide +kernel
  have hl : Settings.layerProfile
      ⟨[url, address, host, ⟨"PORT", some (.integer 80), .default⟩]⟩ r portProfile = .ok
      ⟨[url, address, host, port]⟩ := by decide +kernel
  have hcontext : Sources.build ⟨r, .empty, .empty⟩ (.ok ⟨⟨[url, address, host, port]⟩, none⟩)
      ⟨true, none, .ofList [("SERVER", .string "db")]⟩ = .ok
      ⟨⟨[url, address, ⟨"HOST", some (.string "db"), .override⟩, port]⟩, none⟩ := by
    decide +kernel
  obtain ⟨hsnapshots, hcontexts⟩ := settings_in_effect_valid build_addressCatalog hdefaults
  have hobtained : Settings.Obtained r ⟨[url, address, host, port]⟩ :=
    .layeredProfile (.resolved hs) hl
  have hparent : ∀ current, .ok ⟨⟨[url, address, host, port]⟩, none⟩ =
      (.ok current : Except SettingsError SettingsContext) → current.Built r := by
    intro current hcurrent
    cases hcurrent
    exact .made hobtained
  exact ⟨r, _, _, _, build_addressCatalog, hdefaults, hs, hl, hcontext, rfl, hsnapshots _ hobtained,
    rfl, hcontexts _ (.requested hparent hcontext)⟩

end LayeredSettings
