import LayeredSettings.Context.Request
import LayeredSettings.Proofs.Settings.Independence
import LayeredSettings.Proofs.Settings.ProfileLayering
import LayeredSettings.Proofs.Settings.Refusals

/-!
# A setting's name and its deprecated names

In a profile and in the environment a value under the name of a setting counts, and whatever stands
under its deprecated names beside it makes no difference. Among overrides the key that sorts last
counts, so there this is only so if the name sorts after the deprecated names that are given.
-/

namespace LayeredSettings

variable {r : Registry} {d e : Definition}

/-- A map without the deprecated names of a setting. -/
def Definition.dropAliases {α : Type} (d : Definition) (m : NameMap α) : NameMap α :=
  m.filter fun key => !d.aliases.contains key

/-- Under all other keys a map without the deprecated names of a setting has what the map has. -/
theorem Definition.get?_dropAliases_of_not_mem {α : Type} (m : NameMap α) {key : String}
    (hkey : key ∉ d.aliases) : (d.dropAliases m).get? key = m.get? key := by
  unfold dropAliases
  rw [NameMap.get?_filter, if_pos (by simpa using hkey)]

/-- Nothing is left under a deprecated name that is dropped. -/
theorem Definition.get?_dropAliases_of_mem {α : Type} (m : NameMap α) {key : String}
    (hkey : key ∈ d.aliases) : (d.dropAliases m).get? key = none := by
  unfold dropAliases
  rw [NameMap.get?_filter, if_neg (by simpa using hkey)]

/-- The name of a setting is none of its deprecated names. -/
theorem Registry.Consistent.name_not_mem_aliases (h : r.Consistent) (hd : d ∈ r.definitions) :
    d.name ∉ d.aliases :=
  (List.nodup_cons.mp ((List.nodup_flatMap.mp h.nodup_keys).1 d hd)).1

/-- Dropping the deprecated names of a setting leaves the keys of another one alone. -/
theorem Definition.get?_dropAliases_of_ne {α : Type} (h : r.Consistent) (hd : d ∈ r.definitions)
    (he : e ∈ r.definitions) (hne : e.name ≠ d.name) (m : NameMap α) {key : String}
    (hkey : key ∈ e.keys) : (d.dropAliases m).get? key = m.get? key := by
  refine get?_dropAliases_of_not_mem m fun halias => hne ?_
  exact congrArg Definition.name (h.eq_of_shared_key he hd hkey (List.mem_cons_of_mem _ halias))

section Profile

variable {p : Profile}

/-- A reader of a profile finds values under the names of settings only. -/
theorem Profile.get?_effective_of_not_name {key : String} (hnot : key ∉ r.names) :
    (p.effective r).get? key = none := by
  have hfold (l : List (String × Raw)) (values : NameMap Raw) :
      (l.foldl (addEffective r) values).get? key = values.get? key := by
    induction l generalizing values with
    | nil => rfl
    | cons entry rest ih =>
      rw [List.foldl_cons, ih]
      unfold addEffective
      cases hfind : r.find? entry.1 with
      | none => rfl
      | some d =>
        have hne : key ≠ d.name := by
          rintro rfl
          exact hnot (List.mem_map_of_mem (List.mem_of_find?_eq_some hfind))
        dsimp only
        split
        · rw [NameMap.get?_insert, if_neg hne]
        · rfl
  exact hfold _ _

/-- A reader of a profile in which the name of a setting is stored finds the same without the
deprecated names. -/
theorem Profile.effective_dropAliases (h : r.Consistent) (hd : d ∈ r.definitions) {raw : Raw}
    (hname : p.settings.get? d.name = some raw) :
    effective r { p with settings := d.dropAliases p.settings } = p.effective r := by
  refine NameMap.eq_of_get?_eq fun key => ?_
  by_cases hkey : key ∈ r.names
  · obtain ⟨e, he, rfl⟩ := List.mem_map.mp hkey
    refine Option.ext fun value => ?_
    rw [get?_effective_eq_some_iff h he, get?_effective_eq_some_iff h he]
    by_cases hsame : e.name = d.name
    · cases h.eq_of_name_eq he hd hsame
      have hdropped : (d.dropAliases p.settings).get? d.name = some raw := by
        rw [d.get?_dropAliases_of_not_mem _ (h.name_not_mem_aliases hd), hname]
      constructor
      · intro hstores
        rw [hstores.unique (.named hdropped)]
        exact .named hname
      · intro hstores
        rw [hstores.unique (.named hname)]
        exact .named hdropped
    · have hkept : ∀ key ∈ e.keys, (d.dropAliases p.settings).get? key = p.settings.get? key :=
        fun _ hkey => Definition.get?_dropAliases_of_ne h hd he hsame p.settings hkey
      exact ⟨fun hstores => hstores.of_get?_eq hkept,
        fun hstores => hstores.of_get?_eq fun key hkey => (hkept key hkey).symm⟩
  · rw [get?_effective_of_not_name hkey, get?_effective_of_not_name hkey]

end Profile

section Overrides

variable {overrides : Overrides} {value : Value}

/-- The name of a setting counts among overrides if no deprecated name that is given comes after
it. -/
theorem Overrides.gives_of_name_last (hname : overrides.get? d.name = some value)
    (hlast : ∀ old ∈ d.aliases, overrides.contains old → old < d.name) :
    overrides.Gives d value := by
  refine ⟨d.name, List.mem_cons_self, hname, fun other hother hcontains => ?_⟩
  rcases List.mem_cons.mp hother with rfl | halias
  · exact le_rfl
  · exact (hlast other halias hcontains).le

/-- Overrides under the settings' own names are of settings. -/
theorem get?_canonicalOverrides_of_not_name {named : NameMap Value}
    (hok : canonicalOverrides r overrides = .ok named) {key : String} (hnot : key ∉ r.names) :
    named.get? key = none := by
  obtain ⟨l, hl, hnamed⟩ := bind_eq_ok hok
  cases hnamed
  rw [NameMap.get?_ofList]
  refine lookup_eq_none_of_forall fun other hother => ?_
  obtain ⟨_, e, -, hfind, rfl⟩ :=
    (mem_of_mapM_lookup hl key other).mp (List.mem_reverse.mp hother)
  exact hnot (List.mem_map_of_mem (List.mem_of_find?_eq_some hfind))

/-- The override that counts for a setting is settled by what stands under the setting's keys. -/
theorem Overrides.Gives.of_get?_eq {other : Overrides} (hgives : overrides.Gives d value)
    (hsame : ∀ key ∈ d.keys, overrides.get? key = other.get? key) : other.Gives d value := by
  obtain ⟨key, hkey, hvalue, hlast⟩ := hgives
  refine ⟨key, hkey, hsame key hkey ▸ hvalue, fun k hk hcontains => hlast k hk ?_⟩
  unfold NameMap.contains at hcontains ⊢
  rwa [hsame k hk]

/-- Overrides among which the name of a setting counts say the same without its deprecated names,
also if there is one of an unknown setting. -/
theorem canonicalOverrides_dropAliases (h : r.Consistent) (hd : d ∈ r.definitions)
    (hname : overrides.get? d.name = some value)
    (hlast : ∀ old ∈ d.aliases, overrides.contains old → old < d.name) :
    canonicalOverrides r (d.dropAliases overrides) = canonicalOverrides r overrides := by
  have hkeys : (d.dropAliases overrides).keys =
      overrides.keys.filter fun key => !d.aliases.contains key := overrides.keys_filter _
  cases hunknown : overrides.keys.find? (!r.contains ·) with
  | some key =>
    -- What is dropped is of a known setting, so the first unknown one is still the first.
    have hsame : (d.dropAliases overrides).keys.find? (!r.contains ·) = some key := by
      rw [hkeys, List.find?_filter, ← hunknown]
      congr 1
      funext other
      by_cases halias : other ∈ d.aliases
      · have hknown := h.find?_eq_some_iff.mpr ⟨hd, List.mem_cons_of_mem _ halias⟩
        simp [Registry.contains, hknown]
      · simp [halias]
    rw [canonicalOverrides_of_unknown hunknown, canonicalOverrides_of_unknown hsame]
  | none =>
    have hknown : ∀ key ∈ overrides.keys, r.contains key := by
      simpa using List.find?_eq_none.mp hunknown
    obtain ⟨named, hnamed⟩ := exists_canonicalOverrides hknown
    obtain ⟨left, hleft⟩ : ∃ left, canonicalOverrides r (d.dropAliases overrides) = .ok left :=
      exists_canonicalOverrides fun key hkey =>
        hknown key (List.mem_of_mem_filter (hkeys ▸ hkey))
    rw [hnamed, hleft]
    refine congrArg Except.ok (NameMap.eq_of_get?_eq fun key => ?_)
    by_cases hkey : key ∈ r.names
    · obtain ⟨e, he, rfl⟩ := List.mem_map.mp hkey
      refine Option.ext fun other => ?_
      rw [get?_canonicalOverrides_eq_some_iff h he hleft,
        get?_canonicalOverrides_eq_some_iff h he hnamed]
      by_cases hsame : e.name = d.name
      · cases h.eq_of_name_eq he hd hsame
        have hgives := Overrides.gives_of_name_last hname hlast
        have hgives' : Overrides.Gives (d.dropAliases overrides) d value := by
          refine Overrides.gives_of_name_last ?_ fun old hold hcontains => ?_
          · rw [d.get?_dropAliases_of_not_mem _ (h.name_not_mem_aliases hd), hname]
          · simp [NameMap.contains, d.get?_dropAliases_of_mem overrides hold] at hcontains
        exact ⟨fun hother => hother.unique hgives' ▸ hgives,
          fun hother => hother.unique hgives ▸ hgives'⟩
      · have hkept : ∀ key ∈ e.keys, (d.dropAliases overrides).get? key = overrides.get? key :=
          fun _ hkey => Definition.get?_dropAliases_of_ne h hd he hsame overrides hkey
        exact ⟨fun hother => hother.of_get?_eq hkept,
          fun hother => hother.of_get?_eq fun key hkey => (hkept key hkey).symm⟩
    · rw [get?_canonicalOverrides_of_not_name hleft hkey,
        get?_canonicalOverrides_of_not_name hnamed hkey]

end Overrides

/-- A setting has a value from a layer. -/
def Settings.Takes (s : Settings) (d : Definition) (value : Value) (source : Source) : Prop :=
  s.get? d.name = some ⟨d.name, some value, source⟩

/-- What a profile stores under the name of a setting counts for the setting. -/
structure Profile.NameCounts (r : Registry) (p : Profile) (d : Definition) (raw : Raw) : Prop where
  /-- A resolution with the profile has found that it fits, and has its value if no higher layer
  supplies one. -/
  resolved : ∀ (env : Environment) (c : Collection) (choice : Option String)
    (overrides : Overrides) (s : Settings), c.Selects choice (some p) →
    resolve r env c choice overrides = .ok s → ∃ value, d.cast r.home raw = .ok value ∧
      (overrides.Omits d → env.Omits r d → s.Takes d value .profile)
  /-- Settings that the profile is put on have found that it fits, and have its value, if theirs
  came from no higher layer. -/
  layered : ∀ (s l : Settings) (e : Entry), s.get? d.name = some e →
    (e.source = .default ∨ e.source = .profile) → s.layerProfile r p = .ok l →
    ∃ value, d.cast r.home raw = .ok value ∧ l.Takes d value .profile
  /-- A reader of the profile finds the same without the deprecated names. -/
  aliases : effective r { p with settings := d.dropAliases p.settings } = p.effective r

/-- The text of the variable of a setting's name counts for the setting. -/
structure Environment.NameCounts (r : Registry) (env : Environment) (d : Definition)
    (text : String) : Prop where
  /-- A resolution has found that it fits, and has its value if the setting is not overridden. -/
  resolved : ∀ (c : Collection) (choice : Option String) (overrides : Overrides) (s : Settings),
    resolve r env c choice overrides = .ok s →
    ∃ value, d.cast r.home (.text text) = .ok value ∧
      (overrides.Omits d → s.Takes d value .environment)
  /-- Whatever becomes of the variables of the deprecated names, a resolution comes to the same end
  if this makes no difference to other settings. -/
  aliases : ∀ other : Environment, other.get? (r.boundVariable d) = some text →
    (∀ e ∈ r.definitions, e.name ≠ d.name → other.lookup? r e = env.lookup? r e) →
    ∀ (c : Collection) (choice : Option String) (overrides : Overrides),
      resolve r other c choice overrides = resolve r env c choice overrides

/-- An override under the name of a setting counts for the setting. -/
structure Overrides.NameCounts (r : Registry) (overrides : Overrides) (d : Definition)
    (value : Value) : Prop where
  /-- A resolution has found that it fits, and has it. -/
  resolved : ∀ (env : Environment) (c : Collection) (choice : Option String) (s : Settings),
    resolve r env c choice overrides = .ok s → d.validate value = .ok () ∧ s.Takes d value .override
  /-- Settings that the overrides are put on have found that it fits, and have it. -/
  layered : ∀ (s l : Settings), (s.get? d.name).isSome → s.layer r overrides = .ok l →
    d.validate value = .ok () ∧ l.Takes d value .override
  /-- A context that is requested with the overrides has it. -/
  built : ∀ (env : Environment) (profiles : Collection)
    (parent : Except SettingsError SettingsContext) (inherit : Bool) (profile : Option String)
    (context : SettingsContext),
    (∀ seen, parent = .ok seen → (seen.settings.get? d.name).isSome) →
    Sources.build ⟨r, env, profiles⟩ parent ⟨inherit, profile, overrides⟩ = .ok context →
    d.validate value = .ok () ∧ context.settings.Takes d value .override
  /-- A context with the overrides on top of another one has it. -/
  temporary : ∀ (env : Environment) (profiles : Collection) (parent context : SettingsContext),
    (parent.settings.get? d.name).isSome →
    Sources.temporary ⟨r, env, profiles⟩ (.ok parent) overrides = .ok context →
    d.validate value = .ok () ∧ context.settings.Takes d value .override
  /-- The overrides say the same without the deprecated names. -/
  aliases : canonicalOverrides r (d.dropAliases overrides) = canonicalOverrides r overrides

/-- A setting that a layer has supplied has the merged value in the end. -/
theorem Settings.takes_of_merged (h : r.Consistent) (hd : d ∈ r.definitions)
    {stored : NameMap Raw} {env : Environment} {named : NameMap Value} {s : Settings}
    (hs : expandTemplates r (mergedEntries r stored env named) = .ok s.entries) {value : Value}
    {source : Source} (habove : source ≠ .default)
    (hmerged : mergedEntry d (supplies r stored env named d) = ⟨d.name, some value, source⟩) :
    s.Takes d value source := by
  have hclosed : ¬ Expansion.isOpen (mergedEntries r stored env named) d :=
    not_isOpen_mergedEntries h hd (by simpa [hmerged] using habove)
  unfold Takes
  rw [get?_of_not_isOpen h (map_name_mergedEntries _ _ _) hs hd hclosed, get?_mergedEntries h hd,
    hmerged]

/-- Where a layer supplies a value for a setting, a layering that succeeds has found that it fits,
and the setting has it. -/
theorem Settings.takes_of_layerWith {s l : Settings}
    {supply : Entry → Option (Definition × Supply)} (hok : s.layerWith supply = .ok l) {e : Entry}
    (he : s.get? d.name = some e) {source : Source} {outcome : Except Reason Value}
    (hsupply : supply e = some (d, ⟨source, outcome⟩)) :
    ∃ value, outcome = .ok value ∧ l.Takes d value source := by
  obtain ⟨hmem, hentry⟩ : e ∈ s.entries ∧ e.name = d.name :=
    ⟨List.mem_of_find?_eq_some he, by simpa using List.find?_some he⟩
  have hnone := (layerWith_eq_ok_iff.mp hok).1 e hmem
  rw [hsupply] at hnone
  obtain ⟨value, hvalue⟩ : ∃ value, outcome = .ok value :=
    supplyFailures_eq_nil_iff.mp hnone _ List.mem_cons_self
  refine ⟨value, hvalue, ?_⟩
  unfold Takes
  rw [get?_of_layerWith hok, he, Option.map_some, hsupply, hvalue, ← hentry]
  rfl

/-- In a profile the name of a setting counts. -/
theorem Profile.nameCounts (h : r.Consistent) (hd : d ∈ r.definitions) {p : Profile} {raw : Raw}
    (hname : p.settings.get? d.name = some raw) : p.NameCounts r d raw where
  resolved env c choice overrides s hselects hok := by
    obtain ⟨chosen, named, hchosen, hnamed, hfits, hentries⟩ := resolve_eq_ok hok
    cases (selects_of_chosenProfile hchosen).unique hselects
    have hraw : (storedValues r (some p)).get? d.name = some raw :=
      (get?_effective_eq_some_iff h hd).mpr (.named hname)
    obtain ⟨value, hvalue⟩ := hfits d hd ⟨.profile, d.cast r.home raw⟩ (by simp [supplies, hraw])
    refine ⟨value, hvalue, fun hoverrides henv => ?_⟩
    obtain ⟨other, hother, hmerged⟩ := mergedEntry_of_profile (hfits d hd)
      (get?_canonicalOverrides_of_absent h hd hnamed hoverrides)
      (List.findSome?_eq_none_iff.mpr henv) hraw
    cases hvalue.symm.trans hother
    exact Settings.takes_of_merged h hd hentries (by simp) hmerged
  layered s l e he hsource hok := by
    have hentry : e.name = d.name := by simpa using List.find?_some he
    refine Settings.takes_of_layerWith hok he ?_
    rw [profileSupply_eq h hd _ hentry, if_pos hsource, profileFor,
      (get?_effective_eq_some_iff h hd).mpr (.named hname)]
    rfl
  aliases := effective_dropAliases h hd hname

/-- In the environment the variable of a setting's name counts. -/
theorem Environment.nameCounts (h : r.Consistent) (hd : d ∈ r.definitions) {env : Environment}
    {text : String} (hname : env.get? (r.boundVariable d) = some text) :
    env.NameCounts r d text where
  resolved c choice overrides s hok := by
    obtain ⟨chosen, named, hchosen, hnamed, hfits, hentries⟩ := resolve_eq_ok hok
    have htext : env.lookup? r d = some text := (Supplies.named hname).lookup?_eq
    obtain ⟨value, hvalue⟩ := hfits d hd ⟨.environment, d.cast r.home (.text text)⟩
      (by simp [supplies, htext])
    refine ⟨value, hvalue, fun hoverrides => ?_⟩
    obtain ⟨other, hother, hmerged⟩ := mergedEntry_of_environment (hfits d hd)
      (get?_canonicalOverrides_of_absent h hd hnamed hoverrides) htext
    cases hvalue.symm.trans hother
    exact Settings.takes_of_merged h hd hentries (by simp) hmerged
  aliases other hother hrest c choice overrides := by
    have hsame : ∀ e ∈ r.definitions, other.lookup? r e = env.lookup? r e := by
      intro e he
      by_cases hne : e.name = d.name
      · cases h.eq_of_name_eq he hd hne
        rw [(Supplies.named hname).lookup?_eq, (Supplies.named hother).lookup?_eq]
      · exact hrest e he hne
    have hgive : ∀ e ∈ r.definitions, Inputs.GiveSame r ⟨other, c, choice, overrides⟩
        ⟨env, c, choice, overrides⟩ e := by
      intro e he
      refine ⟨fun _ => ?_, fun _ => Iff.rfl, fun _ => Iff.rfl⟩
      rw [← lookup?_eq_some_iff, ← lookup?_eq_some_iff, hsame e he]
    cases hchosen : chosenProfile c choice with
    | error e => simp only [resolve, hchosen, bind, Except.bind]
    | ok chosen =>
      cases hnamed : canonicalOverrides r overrides with
      | error e => simp only [resolve, hchosen, hnamed, bind, Except.bind]
      | ok named => exact Inputs.resolve_eq_of_giveSame h hchosen hchosen hnamed hnamed hgive

section Given

variable {overrides : Overrides} {value : Value}

/-- An override that fits is supplied as what it is, and only then is it. -/
private theorem validate_of_supplied {other : Value}
    (hother : ((d.validate value).map fun _ => value) = .ok other) :
    d.validate value = .ok () ∧ other = value := by
  cases hvalid : d.validate value with
  | error reason => simp [hvalid, Except.map] at hother
  | ok _ => exact ⟨rfl, by simpa [hvalid, Except.map, eq_comm] using hother⟩

/-- Under a setting's own name the override is supplied that counts for it. -/
private theorem overrideFor_of_gives (h : r.Consistent) (hd : d ∈ r.definitions)
    (hgives : overrides.Gives d value) {named : NameMap Value}
    (hnamed : canonicalOverrides r overrides = .ok named) :
    overrideFor named d = some ⟨.override, (d.validate value).map fun _ => value⟩ := by
  rw [overrideFor, (get?_canonicalOverrides_eq_some_iff h hd hnamed).mpr hgives]
  rfl

variable (h : r.Consistent) (hd : d ∈ r.definitions) (hgives : overrides.Gives d value)
include h hd hgives

/-- A resolution has the override that counts. -/
theorem Overrides.Gives.takes_of_resolve {env : Environment} {c : Collection}
    {choice : Option String} {s : Settings} (hok : resolve r env c choice overrides = .ok s) :
    d.validate value = .ok () ∧ s.Takes d value .override := by
  obtain ⟨chosen, named, -, hnamed, hfits, hentries⟩ := resolve_eq_ok hok
  have hsupply := overrideFor_of_gives h hd hgives hnamed
  obtain ⟨other, hother⟩ := hfits d hd ⟨.override, (d.validate value).map fun _ => value⟩
    (by rw [supplies_eq_append, hsupply]; simp)
  obtain ⟨hvalid, rfl⟩ := validate_of_supplied hother
  refine ⟨hvalid, Settings.takes_of_merged h hd hentries (by simp) ?_⟩
  dsimp only at hother
  rw [supplies_eq_append, hsupply, hother, Option.toList_some, mergedEntry_concat]

/-- Settings that overrides are put on have the override that counts. -/
theorem Overrides.Gives.takes_of_layer {s l : Settings} (hsome : (s.get? d.name).isSome)
    (hok : s.layer r overrides = .ok l) :
    d.validate value = .ok () ∧ l.Takes d value .override := by
  obtain ⟨named, hnamed, hok⟩ := bind_eq_ok hok
  obtain ⟨e, he⟩ := Option.isSome_iff_exists.mp hsome
  have hentry : e.name = d.name := by simpa using List.find?_some he
  have hsupply : Settings.overrideSupply r named e =
      some (d, ⟨.override, (d.validate value).map fun _ => value⟩) := by
    rw [overrideSupply_eq h hd named hentry, overrideFor_of_gives h hd hgives hnamed]
    rfl
  obtain ⟨other, hother, htakes⟩ := Settings.takes_of_layerWith hok he hsupply
  obtain ⟨hvalid, rfl⟩ := validate_of_supplied hother
  exact ⟨hvalid, htakes⟩

/-- A context that is requested with overrides has the override that counts. -/
theorem Overrides.Gives.takes_of_build {env : Environment} {profiles : Collection}
    {parent : Except SettingsError SettingsContext} {inherit : Bool} {profile : Option String}
    {context : SettingsContext}
    (hparent : ∀ seen, parent = .ok seen → (seen.settings.get? d.name).isSome)
    (hok : Sources.build ⟨r, env, profiles⟩ parent ⟨inherit, profile, overrides⟩ = .ok context) :
    d.validate value = .ok () ∧ context.settings.Takes d value .override := by
  cases inherit with
  | false =>
    obtain ⟨s, hs, hok⟩ := bind_eq_ok hok
    cases hok
    exact hgives.takes_of_resolve h hd hs
  | true =>
    obtain ⟨seen, hseen, hok⟩ := bind_eq_ok hok
    have hsome := hparent seen hseen
    cases profile with
    | none =>
      obtain ⟨s, hs, hok⟩ := bind_eq_ok hok
      cases hok
      exact hgives.takes_of_layer h hd hsome hs
    | some name =>
      obtain ⟨p, -, hok⟩ := bind_eq_ok hok
      obtain ⟨l, hl, hok⟩ := bind_eq_ok hok
      obtain ⟨s, hs, hok⟩ := bind_eq_ok hok
      cases hok
      refine hgives.takes_of_layer h hd ?_ hs
      rw [Settings.get?_of_layerWith hl]
      simpa using hsome

/-- A context with overrides on top of another one has the override that counts. -/
theorem Overrides.Gives.takes_of_temporary {env : Environment} {profiles : Collection}
    {parent context : SettingsContext} (hsome : (parent.settings.get? d.name).isSome)
    (hok : Sources.temporary ⟨r, env, profiles⟩ (.ok parent) overrides = .ok context) :
    d.validate value = .ok () ∧ context.settings.Takes d value .override := by
  obtain ⟨seen, hseen, hok⟩ := bind_eq_ok hok
  cases hseen
  obtain ⟨s, hs, hok⟩ := bind_eq_ok hok
  cases hok
  exact hgives.takes_of_layer h hd hsome hs

end Given

/-- Among overrides the name of a setting counts if it comes after the deprecated names that are
given. -/
theorem Overrides.nameCounts (h : r.Consistent) (hd : d ∈ r.definitions) {overrides : Overrides}
    {value : Value} (hname : overrides.get? d.name = some value)
    (hlast : ∀ old ∈ d.aliases, overrides.contains old → old < d.name) :
    overrides.NameCounts r d value where
  resolved _ _ _ _ hok := (gives_of_name_last hname hlast).takes_of_resolve h hd hok
  layered _ _ hsome hok := (gives_of_name_last hname hlast).takes_of_layer h hd hsome hok
  built _ _ _ _ _ _ hparent hok :=
    (gives_of_name_last hname hlast).takes_of_build h hd hparent hok
  temporary _ _ _ _ hsome hok :=
    (gives_of_name_last hname hlast).takes_of_temporary h hd hsome hok
  aliases := canonicalOverrides_dropAliases h hd hname hlast

/-- In a profile and in the environment the name of a setting counts before its deprecated names. So
it does among overrides, in whichever way they are put into effect, if it comes after the deprecated
names that are given. -/
theorem name_counts_before_aliases {envPrefix : String} {home : Home}
    {definitions : List Definition}
    (hbuild : Registry.build envPrefix home definitions = .ok r) (hd : d ∈ r.definitions) :
    (∀ (p : Profile) raw, p.settings.get? d.name = some raw → p.NameCounts r d raw) ∧
    (∀ (env : Environment) text, env.get? (r.boundVariable d) = some text →
      env.NameCounts r d text) ∧
    ∀ (overrides : Overrides) value, overrides.get? d.name = some value →
      (∀ old ∈ d.aliases, overrides.contains old → old < d.name) →
        overrides.NameCounts r d value := by
  obtain ⟨-, h⟩ := Registry.consistent_of_build hbuild
  exact ⟨fun _ _ hname => Profile.nameCounts h hd hname,
    fun _ _ hname => Environment.nameCounts h hd hname,
    fun _ _ hname hlast => Overrides.nameCounts h hd hname hlast⟩

/-- A host with one deprecated name that sorts before its name and one that sorts after it. -/
def hostDefinition : Definition :=
  { name := "HOST", kind := .string, aliases := ["ADDR", "SERVER"] }

/-- The host can be built. -/
theorem build_hostDefinition :
    Registry.build "" none [hostDefinition] = .ok ⟨"", none, [hostDefinition]⟩ := by
  have hsound : (Registry.mk "" none [hostDefinition]).fault? = none := by decide +kernel
  simp only [Registry.build, hsound, Option.elim_none]

/-- In all layers the name counts beside the name that sorts before it, and in a profile and in the
environment also beside the name that sorts after it. -/
theorem name_counts_before_aliases_of_host :
    ∃ r p env overrides s, Registry.build "" none [hostDefinition] = .ok r ∧
      hostDefinition ∈ r.definitions ∧
      p = ⟨Collection.defaultName,
        .ofList [("ADDR", .text "a"), ("HOST", .text "b"), ("SERVER", .text "c")]⟩ ∧
      env = .ofList [("ADDR", "d"), ("HOST", "e"), ("SERVER", "f")] ∧
      overrides = .ofList [("ADDR", .string "g"), ("HOST", .string "h")] ∧
      p.NameCounts r hostDefinition (.text "b") ∧
      Environment.NameCounts r env hostDefinition "e" ∧
      Overrides.NameCounts r overrides hostDefinition (.string "h") ∧
      resolve r env ⟨[p], none⟩ (some "default") overrides = .ok s ∧
      s.entries = [⟨"HOST", some (.string "h"), .override⟩] := by
  have hmem : hostDefinition ∈ [hostDefinition] := List.mem_cons_self
  obtain ⟨hprofile, henv, hoverrides⟩ := name_counts_before_aliases build_hostDefinition hmem
  exact ⟨_, _, _, _, _, build_hostDefinition, hmem, rfl, rfl, rfl,
    hprofile _ _ (by decide +kernel), henv _ _ (by decide +kernel),
    hoverrides _ _ (by decide +kernel) (by decide +kernel), by decide +kernel, rfl⟩

/-- Among overrides the deprecated name that sorts after the name counts before it. -/
theorem old_name_counts_among_overrides :
    ∃ r overrides s l parent built temporary,
      Registry.build "" none [hostDefinition] = .ok r ∧
      overrides = .ofList [("HOST", .string "box"), ("SERVER", .string "db")] ∧
      resolve r .empty .empty none .empty = .ok s ∧ s.layer r overrides = .ok l ∧
      resolve r .empty .empty none overrides = .ok l ∧ parent = ⟨s, none⟩ ∧
      Sources.build ⟨r, .empty, .empty⟩ (.ok parent) ⟨true, none, overrides⟩ = .ok built ∧
      Sources.temporary ⟨r, .empty, .empty⟩ (.ok parent) overrides = .ok temporary ∧
      built.settings = l ∧ temporary.settings = l ∧
      l.entries = [⟨"HOST", some (.string "db"), .override⟩] := by
  let l : Settings := ⟨[⟨"HOST", some (.string "db"), .override⟩]⟩
  refine ⟨_, _, ⟨[⟨"HOST", none, .default⟩]⟩, l, _, ⟨l, none⟩, ⟨l, none⟩, build_hostDefinition,
    rfl, ?_, ?_, ?_, rfl, ?_, ?_, rfl, rfl, rfl⟩ <;> decide +kernel

end LayeredSettings
