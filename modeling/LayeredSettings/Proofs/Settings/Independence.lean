import LayeredSettings.Proofs.Settings.Secrecy

/-!
# Settings do not influence one another

Two resolutions are compared setting by setting. A setting that both are given the same for, in
every layer, holds the same in both, unless it is left to a template that draws on a setting for
which they are given something else. If they are given the same for every setting, they come to the
same end, and an error is the same error; whatever else the sources hold does not matter.
-/

namespace LayeredSettings

variable {r : Registry} {d : Definition}

/-- One profile at most is selected. -/
theorem Collection.Selects.unique {c : Collection} {profile : Option String}
    {chosen other : Option Profile} (h : c.Selects profile chosen)
    (hother : c.Selects profile other) : chosen = other := by
  cases h with
  | named hmem =>
    cases hother with
    | named hmem' => rw [← hmem, ← hmem']
  | active hactive =>
    cases hother with
    | active hactive' => rw [← hactive, ← hactive']
    | nothing hnone => rw [← hactive, ← hnone]
  | nothing hnone =>
    cases hother with
    | active hactive => rw [← hnone, ← hactive]
    | nothing _ => rfl

/-- Choosing a profile fails exactly if one is asked for that is not there. -/
theorem chosenProfile_eq_error_iff {c : Collection} {profile : Option String} {e : SettingsError} :
    chosenProfile c profile = .error e ↔
      ∃ name, profile = some name ∧ name ∉ c.names ∧ e = .profileNotFound name := by
  cases profile with
  | none => simp [chosenProfile]
  | some name =>
    have hmem : name ∈ c.names ↔ (c.get? name).isSome := Collection.contains_iff.symm
    unfold chosenProfile Collection.require
    cases hget : c.get? name with
    | none => simp [hmem, hget, bind, Except.bind, eq_comm]
    | some p => simp [hmem, hget, bind, Except.bind, pure, Except.pure]

/-- What a profile stores for a setting is settled by what stands under the setting's keys. -/
theorem Profile.Stores.of_get?_eq {p q : Profile} {raw : Raw} (h : p.Stores d raw)
    (hsame : ∀ key ∈ d.keys, p.settings.get? key = q.settings.get? key) : q.Stores d raw := by
  cases h with
  | named hname => exact .named (hsame d.name List.mem_cons_self ▸ hname)
  | @aliased old _ hname hmem hold hfirst =>
    have halias : ∀ other ∈ d.aliases, p.settings.get? other = q.settings.get? other :=
      fun other hother => hsame other (List.mem_cons_of_mem _ hother)
    refine .aliased (hsame d.name List.mem_cons_self ▸ hname) hmem (halias old hmem ▸ hold) ?_
    intro other hother hcontains hne
    refine hfirst other hother ?_ hne
    unfold NameMap.contains at hcontains ⊢
    rwa [halias other hother]

/-- What draws on changes in one snapshot does so in another, in which the same settings are left to
their templates. -/
theorem Settings.DrawsOn.of_left {s t : Settings} {changed : Definition → Prop} (h : r.Consistent)
    (hleft : ∀ d ∈ r.definitions, ¬ changed d →
      (∃ e ∈ s.entries, ∃ template, e.LeftTo d template) →
        ∃ e ∈ t.entries, ∃ template, e.LeftTo d template)
    (hd : d ∈ r.definitions) (hdraws : s.DrawsOn r changed d) : t.DrawsOn r changed d := by
  induction hdraws with
  | direct hunchanged hrefers hchanged =>
    exact .direct hunchanged ⟨hleft _ hd hunchanged hrefers.1, hrefers.2⟩ hchanged
  | through hunchanged hrefers _ ih =>
    obtain ⟨hs, reference, href, hfind⟩ := hrefers
    exact .through hunchanged ⟨hleft _ hd hunchanged hs, reference, href, hfind⟩
      (ih (h.find?_eq_some_iff.mp hfind).1)

namespace Inputs

variable {i j : Inputs} {chosen chosen' : Option Profile} {named named' : NameMap Value}

/-- The selected profile stores a raw value for a setting. -/
def Stores (i : Inputs) (d : Definition) (raw : Raw) : Prop :=
  ∃ p, i.profiles.Selects i.profile (some p) ∧ p.Stores d raw

/-- Two inputs give the same for a setting in every layer, or nothing. -/
structure GiveSame (r : Registry) (i j : Inputs) (d : Definition) : Prop where
  /-- The environments supply the same text. -/
  text : ∀ text, i.env.Supplies r d text ↔ j.env.Supplies r d text
  /-- The selected profiles store the same raw value. -/
  raw : ∀ raw, i.Stores d raw ↔ j.Stores d raw
  /-- The same override counts. -/
  override : ∀ value, i.overrides.Gives d value ↔ j.overrides.Gives d value

/-- The profile that is asked for is there, if one is, and the settings of all overrides are known.
-/
structure Known (i : Inputs) (r : Registry) : Prop where
  /-- The profile asked for is one of the collection. -/
  profile : ∀ name, i.profile = some name → name ∈ i.profiles.names
  /-- Every override is of a setting. -/
  overrides : ∀ key ∈ i.overrides.keys, r.contains key

/-- Inputs that differ in nothing but variables bound to no setting, stored keys of no setting, and
profiles that are not selected. -/
structure SameButUnknown (r : Registry) (i j : Inputs) : Prop where
  /-- The variables of settings have the same texts. -/
  env : ∀ d ∈ r.definitions, ∀ name ∈ r.variableNames d, i.env.get? name = j.env.get? name
  /-- The same profile is asked for. -/
  profile : i.profile = j.profile
  /-- The profile asked for is there in both or in neither. -/
  found : ∀ name, i.profile = some name → (name ∈ i.profiles.names ↔ name ∈ j.profiles.names)
  /-- The selected profiles store the same under the keys of settings. -/
  stored : ∀ d ∈ r.definitions, ∀ key ∈ d.keys, i.stored.get? key = j.stored.get? key
  /-- The overrides are the same. -/
  overrides : i.overrides = j.overrides

/-- Under a setting's own name stands what the selected profile stores for the setting. -/
theorem get?_storedValues_eq_some_iff (h : r.Consistent) (hd : d ∈ r.definitions)
    (hchosen : chosenProfile i.profiles i.profile = .ok chosen) {raw : Raw} :
    (storedValues r chosen).get? d.name = some raw ↔ i.Stores d raw := by
  have hselects := selects_of_chosenProfile hchosen
  constructor
  · intro hget
    obtain ⟨p, rfl, hstores⟩ := stores_of_get?_storedValues h hd hget
    exact ⟨p, hselects, hstores⟩
  · rintro ⟨p, hp, hstores⟩
    cases hselects.unique hp
    exact (Profile.get?_effective_eq_some_iff h hd).mpr hstores

section Given

variable (h : r.Consistent) (hchosen : chosenProfile i.profiles i.profile = .ok chosen)
  (hchosen' : chosenProfile j.profiles j.profile = .ok chosen')
  (hnamed : canonicalOverrides r i.overrides = .ok named)
  (hnamed' : canonicalOverrides r j.overrides = .ok named')
include h hchosen hchosen' hnamed hnamed'

/-- The layers supply the same for a setting that both inputs give the same for. -/
theorem GiveSame.supplies_eq (hd : d ∈ r.definitions) (hsame : i.GiveSame r j d) :
    supplies r (storedValues r chosen) i.env named d =
      supplies r (storedValues r chosen') j.env named' d := by
  have hstored : (storedValues r chosen).get? d.name = (storedValues r chosen').get? d.name := by
    refine Option.ext fun raw => ?_
    rw [get?_storedValues_eq_some_iff h hd hchosen, get?_storedValues_eq_some_iff h hd hchosen',
      hsame.raw]
  have htext : i.env.lookup? r d = j.env.lookup? r d := by
    refine Option.ext fun text => ?_
    rw [Environment.lookup?_eq_some_iff, Environment.lookup?_eq_some_iff, hsame.text]
  have hoverride : named.get? d.name = named'.get? d.name := by
    refine Option.ext fun value => ?_
    rw [get?_canonicalOverrides_eq_some_iff h hd hnamed,
      get?_canonicalOverrides_eq_some_iff h hd hnamed', hsame.override]
  unfold supplies
  rw [hstored, htext, hoverride]

/-- Inputs that give the same for every setting resolve to the same settings or fail with the same
error. -/
theorem resolve_eq_of_giveSame (hsame : ∀ d ∈ r.definitions, i.GiveSame r j d) :
    i.resolve r = j.resolve r := by
  have hsupplies : ∀ d ∈ r.definitions, supplies r (storedValues r chosen) i.env named d =
      supplies r (storedValues r chosen') j.env named' d := fun d hd =>
    (hsame d hd).supplies_eq h hchosen hchosen' hnamed hnamed' hd
  have hfailures : r.definitions.flatMap (fun d =>
      supplyFailures d (supplies r (storedValues r chosen) i.env named d)) =
      r.definitions.flatMap fun d =>
        supplyFailures d (supplies r (storedValues r chosen') j.env named' d) :=
    List.flatMap_congr fun d hd => by rw [hsupplies d hd]
  have hmerged : r.definitions.map (fun d =>
      mergedEntry d (supplies r (storedValues r chosen) i.env named d)) =
      r.definitions.map fun d =>
        mergedEntry d (supplies r (storedValues r chosen') j.env named' d) :=
    List.map_congr_left fun d hd => by rw [hsupplies d hd]
  unfold resolve LayeredSettings.resolve
  rw [hchosen, hchosen', hnamed, hnamed']
  simp only [bind, Except.bind]
  rw [hfailures, hmerged]

end Given

/-- What a profile is asked for and known overrides give, a resolution starts from. -/
theorem Known.exists_sources (h : i.Known r) : ∃ chosen named,
    chosenProfile i.profiles i.profile = .ok chosen ∧
      canonicalOverrides r i.overrides = .ok named := by
  obtain ⟨named, hnamed⟩ := exists_canonicalOverrides h.overrides
  cases hchosen : chosenProfile i.profiles i.profile with
  | error e =>
    obtain ⟨name, hname, hnot, -⟩ := chosenProfile_eq_error_iff.mp hchosen
    exact absurd (h.profile name hname) hnot
  | ok chosen => exact ⟨chosen, named, rfl, hnamed⟩

/-- What differs in nothing known does so the other way round. -/
theorem SameButUnknown.symm (h : i.SameButUnknown r j) : j.SameButUnknown r i where
  env d hd name hname := (h.env d hd name hname).symm
  profile := h.profile.symm
  found name hname := (h.found name (h.profile.trans hname)).symm
  stored d hd key hkey := (h.stored d hd key hkey).symm
  overrides := h.overrides.symm

/-- What the selected profile stores for a setting, another one stores that differs in nothing
known. -/
private theorem SameButUnknown.stores (h : i.SameButUnknown r j)
    (hchosen : chosenProfile i.profiles i.profile = .ok chosen)
    (hchosen' : chosenProfile j.profiles j.profile = .ok chosen') (hd : d ∈ r.definitions)
    {raw : Raw} (hstores : i.Stores d raw) : j.Stores d raw := by
  obtain ⟨p, hp, hstores⟩ := hstores
  cases (selects_of_chosenProfile hchosen).unique hp
  have hsame := h.stored d hd
  rw [stored_eq hchosen, stored_eq hchosen'] at hsame
  cases chosen' with
  | none =>
    obtain ⟨key, hkey, hget⟩ := hstores.exists_key
    exact absurd (hget.symm.trans (hsame key hkey)) (by simp [Profile.storedBy])
  | some q => exact ⟨q, selects_of_chosenProfile hchosen', hstores.of_get?_eq hsame⟩

/-- The text that an environment supplies, another one supplies that differs in nothing known. -/
private theorem SameButUnknown.supplies (h : i.SameButUnknown r j) (hd : d ∈ r.definitions)
    (text : String) : i.env.Supplies r d text ↔ j.env.Supplies r d text := by
  rw [← Environment.lookup?_eq_some_iff, ← Environment.lookup?_eq_some_iff,
    Environment.lookup?_congr (h.env d hd)]

/-- Inputs that differ in nothing known give the same for every setting. -/
theorem SameButUnknown.giveSame (h : i.SameButUnknown r j)
    (hchosen : chosenProfile i.profiles i.profile = .ok chosen)
    (hchosen' : chosenProfile j.profiles j.profile = .ok chosen') (hd : d ∈ r.definitions) :
    i.GiveSame r j d where
  text := h.supplies hd
  raw _ := ⟨h.stores hchosen hchosen' hd, h.symm.stores hchosen' hchosen hd⟩
  override _ := by rw [h.overrides]

/-- Inputs that differ in nothing known resolve to the same settings or fail with the same error. -/
theorem SameButUnknown.resolve_eq (h : i.SameButUnknown r j) (hr : r.Consistent) :
    i.resolve r = j.resolve r := by
  cases hchosen : chosenProfile i.profiles i.profile with
  | error e =>
    obtain ⟨name, hname, hnot, rfl⟩ := chosenProfile_eq_error_iff.mp hchosen
    have hchosen' : chosenProfile j.profiles j.profile = .error (.profileNotFound name) :=
      chosenProfile_eq_error_iff.mpr
        ⟨name, h.profile ▸ hname, mt (h.found name hname).mpr hnot, rfl⟩
    unfold resolve LayeredSettings.resolve
    rw [hchosen, hchosen']
    rfl
  | ok chosen =>
    cases hchosen' : chosenProfile j.profiles j.profile with
    | error e =>
      obtain ⟨name, hname, hnot, -⟩ := chosenProfile_eq_error_iff.mp hchosen'
      have hname := h.profile.trans hname
      have hthere := chosenProfile_eq_error_iff.mpr
        ⟨name, hname, mt (h.found name hname).mp hnot, rfl⟩
      cases hchosen.symm.trans hthere
    | ok chosen' =>
      cases hnamed : canonicalOverrides r i.overrides with
      | error e =>
        have hnamed' : canonicalOverrides r j.overrides = .error e := h.overrides ▸ hnamed
        unfold resolve LayeredSettings.resolve
        rw [hchosen, hchosen', hnamed, hnamed']
        rfl
      | ok named =>
        exact resolve_eq_of_giveSame hr hchosen hchosen' hnamed (h.overrides ▸ hnamed)
          fun d hd => h.giveSame hchosen hchosen' hd

section Resolved

variable {s t : Settings} (h : r.Consistent) (hs : i.resolve r = .ok s) (ht : j.resolve r = .ok t)
include h hs ht

/-- The entries before templates are filled, of which those are the same that both inputs give the
same for. -/
private theorem exists_merged : ∃ entries others : List Entry,
    entries.map (·.name) = r.names ∧ others.map (·.name) = r.names ∧
      expandTemplates r entries = .ok s.entries ∧ expandTemplates r others = .ok t.entries ∧
      ∀ d ∈ r.definitions, ¬¬ i.GiveSame r j d →
        (Settings.mk entries).get? d.name = (Settings.mk others).get? d.name := by
  obtain ⟨chosen, named, hchosen, hnamed, -, hs⟩ := resolve_eq_ok hs
  obtain ⟨chosen', named', hchosen', hnamed', -, ht⟩ := resolve_eq_ok ht
  refine ⟨mergedEntries r (storedValues r chosen) i.env named,
    mergedEntries r (storedValues r chosen') j.env named', map_name_mergedEntries _ _ _,
    map_name_mergedEntries _ _ _, hs, ht, fun d hd hsame => ?_⟩
  rw [get?_mergedEntries h hd, get?_mergedEntries h hd,
    (not_not.mp hsame).supplies_eq h hchosen hchosen' hnamed hnamed' hd]

/-- A setting that both inputs give the same for is left to its template in both or in neither. -/
private theorem left_iff (hd : d ∈ r.definitions) (hsame : ¬¬ i.GiveSame r j d) :
    (∃ e ∈ s.entries, ∃ template, e.LeftTo d template) ↔
      ∃ e ∈ t.entries, ∃ template, e.LeftTo d template := by
  obtain ⟨entries, others, hnames, hothers, hs, ht, hmerged⟩ := exists_merged h hs ht
  rw [← isOpen_iff_left h hnames hs, ← isOpen_iff_left h hothers ht]
  exact isOpen_congr h hnames hothers (hmerged d hd hsame)

/-- A setting that both inputs give the same for has one entry in both results, unless it draws on
one for which they give something else. -/
private theorem exists_common_entry (hd : d ∈ r.definitions) (hsame : i.GiveSame r j d)
    (hnot : ¬ s.DrawsOn r (fun d => ¬ i.GiveSame r j d) d) :
    ∃ e, s.get? d.name = some e ∧ t.get? d.name = some e := by
  obtain ⟨entries, others, hnames, hothers, hs, ht, hmerged⟩ := exists_merged h hs ht
  obtain ⟨horder, -, -⟩ := solves_of_expandTemplates h hnames hs
  obtain ⟨e, he, -⟩ := Settings.exists_get?_of_names horder hd
  have heq := Settings.get?_eq_of_not_drawsOn h hnames hothers hs ht hmerged hd
    (not_not.mpr hsame) hnot
  exact ⟨e, he, heq ▸ he⟩

end Resolved

/-- Settings do not influence one another. If two resolutions succeed, every setting that both are
given the same for has the same value from the same layer in both, unless it is left to a template
that draws on a setting for which they are given something else. If they are given the same for
every setting, and what is asked for exists, they come to the same end, errors included; and nothing
else that the sources hold makes a difference. -/
theorem settings_independent {envPrefix : String} {home : Home} {definitions : List Definition}
    (hbuild : Registry.build envPrefix home definitions = .ok r) (i j : Inputs) :
    (∀ s t, i.resolve r = .ok s → j.resolve r = .ok t →
      ∀ d ∈ r.definitions, i.GiveSame r j d →
        (s.DrawsOn r (fun d => ¬ i.GiveSame r j d) d ↔
          t.DrawsOn r (fun d => ¬ i.GiveSame r j d) d) ∧
        (¬ s.DrawsOn r (fun d => ¬ i.GiveSame r j d) d →
          ∃ e, s.get? d.name = some e ∧ t.get? d.name = some e)) ∧
    ((∀ d ∈ r.definitions, i.GiveSame r j d) → i.Known r → j.Known r →
      i.resolve r = j.resolve r) ∧
    (i.SameButUnknown r j → i.resolve r = j.resolve r) := by
  obtain ⟨-, h⟩ := Registry.consistent_of_build hbuild
  refine ⟨?_, ?_, fun hunknown => hunknown.resolve_eq h⟩
  · intro s t hs ht d hd hsame
    have hleft := fun d hd => left_iff (d := d) h hs ht hd
    refine ⟨⟨?_, ?_⟩, exists_common_entry h hs ht hd hsame⟩
    · exact Settings.DrawsOn.of_left h (fun d hd hsame => (hleft d hd hsame).mp) hd
    · exact Settings.DrawsOn.of_left h (fun d hd hsame => (hleft d hd hsame).mpr) hd
  · intro hsame hi hj
    obtain ⟨chosen, named, hchosen, hnamed⟩ := hi.exists_sources
    obtain ⟨chosen', named', hchosen', hnamed'⟩ := hj.exists_sources
    exact resolve_eq_of_giveSame h hchosen hchosen' hnamed hnamed' hsame

/-- Another port leaves the host as it is, and the address draws on it. A variable of no setting and
a profile that is not selected make no difference. -/
theorem settings_independent_of_address :
    let r : Registry := ⟨"", none, addressCatalog⟩
    let i : Inputs := ⟨.ofList [("PORT", "8080")], .empty, none, .empty⟩
    let j : Inputs := ⟨.ofList [("PORT", "9090")], .empty, none, .empty⟩
    let k : Inputs :=
      ⟨.ofList [("PORT", "8080"), ("USER", "me")], ⟨[portProfile], none⟩, none, .empty⟩
    let address := addressCatalog[1]
    let host := addressCatalog[2]
    ∃ s t, Registry.build "" none addressCatalog = .ok r ∧
      i.resolve r = .ok s ∧ j.resolve r = .ok t ∧
      i.GiveSame r j address ∧ i.GiveSame r j host ∧ ¬ i.GiveSame r j addressCatalog[3] ∧
      s.DrawsOn r (fun d => ¬ i.GiveSame r j d) address ∧
      t.DrawsOn r (fun d => ¬ i.GiveSame r j d) address ∧
      (∃ e, s.get? "HOST" = some e ∧ t.get? "HOST" = some e) ∧
      i.SameButUnknown r k ∧ i.resolve r = k.resolve r := by
  intro r i j k address host
  have hs : i.resolve r = .ok addressSettings := by decide +kernel
  have ht : j.resolve r = .ok
      ⟨[⟨"URL", some (.string "http://localhost:9090/"), .default⟩,
        ⟨"ADDRESS", some (.string "localhost:9090"), .default⟩,
        ⟨"HOST", some (.string "localhost"), .default⟩,
        ⟨"PORT", some (.integer 9090), .environment⟩]⟩ := by decide +kernel
  have hlookup : ∀ d ∈ addressCatalog, d.name ≠ "PORT" →
      i.env.lookup? r d = j.env.lookup? r d := by decide +kernel
  have hsame : ∀ d ∈ addressCatalog, d.name ≠ "PORT" → i.GiveSame r j d := by
    intro d hd hname
    refine ⟨fun text => ?_, fun _ => Iff.rfl, fun _ => Iff.rfl⟩
    rw [← Environment.lookup?_eq_some_iff, hlookup d hd hname, Environment.lookup?_eq_some_iff]
  have hport : ¬ i.GiveSame r j addressCatalog[3] := by
    intro hgiven
    have htext := (hgiven.text "8080").mp (.named (by decide +kernel))
    exact absurd htext.lookup?_eq (by decide +kernel)
  have haddress : address ∈ addressCatalog := List.getElem_mem _
  have hhost : host ∈ addressCatalog := List.getElem_mem _
  have hdraws : addressSettings.DrawsOn r (fun d => ¬ i.GiveSame r j d) address :=
    .direct (not_not.mpr (hsame address haddress (by decide)))
      ⟨⟨_, List.mem_cons_of_mem _ List.mem_cons_self, _, rfl, rfl, rfl⟩, "PORT",
        by decide +kernel, rfl⟩ hport
  have hfree : ¬ addressSettings.DrawsOn r (fun d => ¬ i.GiveSame r j d) host := by
    intro hother
    cases hother with
    | direct _ hrefers _ | through _ hrefers _ =>
      obtain ⟨⟨e, -, template, -, -, hdefault⟩, -⟩ := hrefers
      cases hdefault
  have hunknown : i.SameButUnknown r k := by
    refine ⟨by decide +kernel, rfl, fun name hname => ?_, fun d _ key _ => rfl, rfl⟩
    cases hname
  obtain ⟨hagree, -⟩ := settings_independent build_addressCatalog i j
  have hsettled := hagree _ _ hs ht
  obtain ⟨hboth, -⟩ := hsettled address haddress (hsame address haddress (by decide))
  obtain ⟨-, hentry⟩ := hsettled host hhost (hsame host hhost (by decide))
  obtain ⟨-, -, hequal⟩ := settings_independent build_addressCatalog i k
  exact ⟨_, _, build_addressCatalog, hs, ht, hsame address haddress (by decide),
    hsame host hhost (by decide), hport, hdraws, hboth.mp hdraws, hentry hfree, hunknown,
    hequal hunknown⟩

end Inputs

end LayeredSettings
