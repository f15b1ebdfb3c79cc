import LayeredSettings.Proofs.Settings.CanonicalKeys
import LayeredSettings.Proofs.Settings.Finiteness
import LayeredSettings.Proofs.Settings.LayerAlgebra

/-!
# Which profile a value comes from

An entry says that its value comes from a profile, not from which one. A profile that is put on a
snapshot replaces what it stores something for and lets everything else stand, values of the
profiles below it included. So an entry of a snapshot, or of a context that was built on others,
holds what is stored by the uppermost profile that stores anything for its setting. That is the
profile that was put on last only if this one stores something for every setting that was there from
a profile before.
-/

namespace LayeredSettings

variable {r : Registry} {d : Definition} {e : Entry} {s l : Settings} {p : Profile}

/-- The entry is there from a profile, with the value that what is stored for its setting is cast
to. -/
def Entry.HoldsStored (e : Entry) (r : Registry) (stored : Definition → Raw → Prop) : Prop :=
  ∃ d ∈ r.definitions, ∃ raw value, stored d raw ∧ d.cast r.home raw = .ok value ∧
    e = ⟨d.name, some value, .profile⟩

/-- The profile stores nothing for the setting of an entry. -/
def Profile.LeavesOut (p : Profile) (r : Registry) (e : Entry) : Prop :=
  ∀ d ∈ r.definitions, d.name = e.name → ∀ raw, ¬ p.Stores d raw

/-- A snapshot that was resolved, with profiles and overrides layered on it in any order. The list
holds the profiles that were read, the uppermost first. -/
inductive Settings.ReadFrom (r : Registry) : List Profile → Settings → Prop
  | resolved {env : Environment} {c : Collection} {profile : Option String}
      {chosen : Option Profile} {overrides : Overrides} {s : Settings}
      (hchosen : c.Selects profile chosen) (hok : resolve r env c profile overrides = .ok s) :
      ReadFrom r chosen.toList s
  | layeredProfile {lower : List Profile} {p : Profile} {s l : Settings}
      (hs : ReadFrom r lower s) (hok : s.layerProfile r p = .ok l) : ReadFrom r (p :: lower) l
  | layered {profiles : List Profile} {overrides : Overrides} {s l : Settings}
      (hs : ReadFrom r profiles s) (hok : s.layer r overrides = .ok l) : ReadFrom r profiles l

/-- A profile that stores a value for a setting does not leave out the entry that holds it. -/
theorem Entry.HoldsStored.not_leavesOut (he : e.HoldsStored r p.Stores) : ¬ p.LeavesOut r e := by
  obtain ⟨d, hd, raw, value, hstores, -, rfl⟩ := he
  exact fun hnone => hnone d hd rfl raw hstores

section Resolved

variable {stored : NameMap Raw} {env : Environment} {named : NameMap Value}

/-- What comes from the profile among the supplied values is what is stored. -/
theorem stored_of_mem_supplies {supply : Supply} (hmem : supply ∈ supplies r stored env named d)
    (hsource : supply.source = .profile) :
    ∃ raw, stored.get? d.name = some raw ∧ supply = ⟨.profile, d.cast r.home raw⟩ := by
  unfold supplies at hmem
  simp only [List.mem_append, Option.mem_toList] at hmem
  rcases hmem with (hmem | hmem) | hmem
  · obtain ⟨raw, hraw, rfl⟩ := Option.map_eq_some_iff.mp hmem
    exact ⟨raw, hraw, rfl⟩
  · obtain ⟨_, -, rfl⟩ := Option.map_eq_some_iff.mp hmem
    cases hsource
  · obtain ⟨_, -, rfl⟩ := Option.map_eq_some_iff.mp hmem
    cases hsource

/-- A merged entry from a profile holds what is stored under the name of its setting. -/
theorem holdsStored_of_merged (hd : d ∈ r.definitions)
    (hfits : ∀ supply ∈ supplies r stored env named d, ∃ value, supply.outcome = .ok value)
    (hsource : (mergedEntry d (supplies r stored env named d)).source = .profile) :
    (mergedEntry d (supplies r stored env named d)).HoldsStored r
      fun d raw => stored.get? d.name = some raw := by
  rcases List.eq_nil_or_concat' (supplies r stored env named d) with
    hnone | ⟨lower, ⟨source, outcome⟩, hsplit⟩
  · rw [hnone, mergedEntry_nil, d.defaultEntry_source] at hsource
    cases hsource
  · -- All that is supplied fits, so the last of it counts.
    have hlast : ⟨source, outcome⟩ ∈ supplies r stored env named d := by simp [hsplit]
    obtain ⟨value, rfl⟩ : ∃ value, outcome = .ok value := hfits _ hlast
    have hmerged : mergedEntry d (supplies r stored env named d) =
        ⟨d.name, some value, source⟩ := by
      rw [hsplit, mergedEntry_concat]
    rw [hmerged] at hsource ⊢
    obtain ⟨raw, hraw, hsupply⟩ := stored_of_mem_supplies hlast hsource
    obtain ⟨rfl, hcast⟩ := Supply.mk.inj hsupply
    exact ⟨d, hd, raw, value, hraw, hcast.symm, rfl⟩

end Resolved

/-- After a resolution an entry from a profile holds what the selected profile stores. -/
theorem holdsStored_of_resolve (h : r.Consistent) {env : Environment} {c : Collection}
    {profile : Option String} {overrides : Overrides}
    (hok : resolve r env c profile overrides = .ok s) (he : e ∈ s.entries)
    (hsource : e.source = .profile) :
    ∃ q, c.Selects profile (some q) ∧ e.HoldsStored r q.Stores := by
  obtain ⟨chosen, named, hchosen, -, hfits, hentries⟩ := resolve_eq_ok hok
  change expandTemplates r (mergedEntries r (storedValues r chosen) env named) = _ at hentries
  have hnames := map_name_mergedEntries (r := r) (storedValues r chosen) env named
  obtain ⟨horder, -, -⟩ := solves_of_expandTemplates h hnames hentries
  obtain ⟨d, hd, -, hget⟩ := Settings.exists_definition_of_mem h horder he
  have hmerged := (source_of_expanded h hentries hd hget).symm.trans hsource
  have hclosed : ¬ Expansion.isOpen (mergedEntries r (storedValues r chosen) env named) d :=
    not_isOpen_mergedEntries h hd (by simp [hmerged])
  rw [get?_of_not_isOpen h hnames hentries hd hclosed, get?_mergedEntries h hd] at hget
  have hheld := holdsStored_of_merged hd (hfits d hd) hmerged
  rw [Option.some.inj hget] at hheld
  obtain ⟨w, hw, raw, value, hraw, hcast, heq⟩ := hheld
  obtain ⟨q, rfl, hstores⟩ := stores_of_get?_storedValues h hw hraw
  exact ⟨q, selects_of_chosenProfile hchosen, w, hw, raw, value, hstores, hcast, heq⟩

/-- A profile on top supplies what it stores for the setting of an entry, if the entry comes from no
higher layer. -/
theorem profileSupply_eq_some_iff (h : r.Consistent) {supply : Supply} :
    Settings.profileSupply r (p.effective r) e = some (d, supply) ↔
      (e.source = .default ∨ e.source = .profile) ∧ d ∈ r.definitions ∧ d.name = e.name ∧
        ∃ raw, p.Stores d raw ∧ supply = ⟨.profile, d.cast r.home raw⟩ := by
  constructor
  · intro hsupply
    obtain ⟨-, hbelow⟩ := Settings.source_of_profileSupply hsupply
    unfold Settings.profileSupply at hsupply
    obtain ⟨_, -, hsupply⟩ := Option.bind_eq_some_iff.mp hsupply
    obtain ⟨found, hfind, hsupply⟩ := Option.bind_eq_some_iff.mp hsupply
    obtain ⟨raw, hraw, hsupply⟩ := Option.bind_eq_some_iff.mp hsupply
    cases hsupply
    obtain ⟨hd, hkey⟩ := h.find?_eq_some_iff.mp hfind
    -- The entry might go by a deprecated name, but nothing is read under such a name.
    have hmem : e.name ∈ r.names := by
      by_contra hnot
      rw [Profile.get?_effective_of_not_name hnot] at hraw
      cases hraw
    obtain ⟨other, hother, hname⟩ := List.mem_map.mp hmem
    have hsame : d = other := h.eq_of_shared_key hd hother hkey (hname ▸ List.mem_cons_self)
    subst hsame
    exact ⟨hbelow, hd, hname, raw, Profile.stores_of_get?_effective h hd (hname ▸ hraw), rfl⟩
  · rintro ⟨hbelow, hd, hname, raw, hstores, rfl⟩
    rw [profileSupply_eq h hd _ hname.symm, if_pos hbelow]
    unfold profileFor
    rw [(Profile.get?_effective_eq_some_iff h hd).mpr hstores]
    rfl

/-- Nothing is supplied for an entry from a profile exactly if the profile on top stores nothing
for its setting. -/
theorem profileSupply_eq_none_iff (h : r.Consistent) (hsource : e.source = .profile) :
    Settings.profileSupply r (p.effective r) e = none ↔ p.LeavesOut r e := by
  constructor
  · intro hnone d hd hname raw hstores
    have hsupply := (profileSupply_eq_some_iff h).mpr
      ⟨Or.inr hsource, hd, hname, raw, hstores, rfl⟩
    rw [hnone] at hsupply
    cases hsupply
  · intro hnone
    refine Option.eq_none_iff_forall_ne_some.mpr fun ⟨d, supply⟩ hsupply => ?_
    obtain ⟨-, hd, hname, raw, hstores, -⟩ := (profileSupply_eq_some_iff h).mp hsupply
    exact hnone d hd hname raw hstores

/-- A profile that is put on a snapshot leaves the entries that it stores nothing for, and of the
entries from a profile it leaves no others. -/
theorem mem_layerProfile_cases (h : r.Consistent) (hok : s.layerProfile r p = .ok l)
    (he : e ∈ l.entries) (hsource : e.source = .profile) :
    e.HoldsStored r p.Stores ∨ (p.LeavesOut r e ∧ e ∈ s.entries) := by
  obtain ⟨hnone, rfl⟩ := Settings.layerWith_eq_ok_iff.mp hok
  obtain ⟨before, hbefore, rfl⟩ := List.mem_map.mp he
  cases hsupply : Settings.profileSupply r (p.effective r) before with
  | none =>
    rw [hsupply] at hsource
    exact Or.inr ⟨(profileSupply_eq_none_iff h hsource).mp hsupply, hbefore⟩
  | some given =>
    obtain ⟨d, supply⟩ := given
    have hfits := hnone before hbefore
    rw [hsupply] at hfits
    obtain ⟨value, hvalue, hentry⟩ := Settings.Layered.entry_of_fits hfits
    obtain ⟨-, hd, hname, raw, hstores, rfl⟩ := (profileSupply_eq_some_iff h).mp hsupply
    refine Or.inl ⟨d, hd, raw, value, hstores, hvalue, ?_⟩
    rw [hentry, hname]

/-- An entry from a profile stays as it is under a profile that stores nothing for its setting. -/
theorem mem_layerProfile_of_leavesOut (h : r.Consistent) (hok : s.layerProfile r p = .ok l)
    (he : e ∈ s.entries) (hsource : e.source = .profile) (hnone : p.LeavesOut r e) :
    e ∈ l.entries := by
  obtain ⟨-, rfl⟩ := Settings.layerWith_eq_ok_iff.mp hok
  refine List.mem_map.mpr ⟨e, he, ?_⟩
  rw [(profileSupply_eq_none_iff h hsource).mpr hnone, Settings.Layered.of_none]

/-- Under overrides an entry from a profile was there before. -/
theorem mem_of_mem_layer {overrides : Overrides} (hok : s.layer r overrides = .ok l)
    (he : e ∈ l.entries) (hsource : e.source = .profile) : e ∈ s.entries := by
  obtain ⟨named, -, hok⟩ := bind_eq_ok hok
  obtain ⟨hnone, rfl⟩ := Settings.layerWith_eq_ok_iff.mp hok
  obtain ⟨before, hbefore, rfl⟩ := List.mem_map.mp he
  cases hsupply : Settings.overrideSupply r named before with
  | none => exact hbefore
  | some given =>
    obtain ⟨d, supply⟩ := given
    have hfits := hnone before hbefore
    rw [hsupply] at hfits hsource
    obtain ⟨value, -, hentry⟩ := Settings.Layered.entry_of_fits hfits
    rw [hentry, Settings.source_of_overrideSupply hsupply] at hsource
    cases hsource

/-- However many profiles were read for a snapshot, an entry from a profile holds what the uppermost
of those that store anything for its setting stores. -/
theorem Settings.ReadFrom.holdsStored (h : r.Consistent) {profiles : List Profile}
    (hs : s.ReadFrom r profiles) (he : e ∈ s.entries) (hsource : e.source = .profile) :
    e.HoldsStored r fun d => Profile.FirstStored d profiles := by
  induction hs with
  | @resolved env c profile chosen overrides s hchosen hok =>
    obtain ⟨q, hq, d, hd, raw, value, hstores, hheld⟩ := holdsStored_of_resolve h hok he hsource
    rw [hchosen.unique hq]
    exact ⟨d, hd, raw, value, .here hstores, hheld⟩
  | layeredProfile _ hok ih =>
    rcases mem_layerProfile_cases h hok he hsource with
      ⟨d, hd, raw, value, hstores, hheld⟩ | ⟨hnone, hbefore⟩
    · exact ⟨d, hd, raw, value, .here hstores, hheld⟩
    · obtain ⟨d, hd, raw, value, hlower, hcast, rfl⟩ := ih hbefore
      exact ⟨d, hd, raw, value, .past (hnone d hd rfl) hlower, hcast, rfl⟩
  | layered _ hok ih => exact ih (mem_of_mem_layer hok he hsource)

/-- A request for a profile on top of a context puts the profile and then the overrides on its
settings, and the context is that of the profile. -/
theorem build_switched {env : Environment} {c : Collection} {parent context : SettingsContext}
    {name : String} {overrides : Overrides}
    (hok : Sources.build ⟨r, env, c⟩ (.ok parent) ⟨true, some name, overrides⟩ = .ok context) :
    context.profile = some name ∧ ∃ p below, c.get? name = some p ∧
      parent.settings.layerProfile r p = .ok below ∧
      below.layer r overrides = .ok context.settings := by
  obtain ⟨_, hparent, hok⟩ := bind_eq_ok hok
  cases hparent
  obtain ⟨p, hp, hok⟩ := bind_eq_ok hok
  obtain ⟨below, hbelow, hok⟩ := bind_eq_ok hok
  obtain ⟨settings, hsettings, hok⟩ := bind_eq_ok hok
  cases hok
  refine ⟨rfl, p, below, ?_, hbelow, hsettings⟩
  cases hget : c.get? name with
  | none => simp [Collection.require, hget] at hp
  | some found => simpa [Collection.require, hget] using hp

/-- An entry that is from a profile after a profile was layered holds what that profile stores or,
where it stores nothing for the setting, stays as it was, with what the profile stores that the
snapshot was resolved with. All such entries are of the layered profile only if it stores something
for every setting that was there from a profile. A context that is requested for a profile on top of
another one is called after the profile. Its entries from a profile hold what that one stores, or
else are those of the other context, and so what the uppermost of all profiles that were read stores
if it stores anything for the setting. -/
theorem profile_provenance {envPrefix : String} {home : Home} {definitions : List Definition}
    (hbuild : Registry.build envPrefix home definitions = .ok r) :
    (∀ (env : Environment) (c : Collection) (profile : Option String) (overrides : Overrides)
      (s l : Settings) (p : Profile),
      resolve r env c profile overrides = .ok s → s.layerProfile r p = .ok l →
      (∀ e ∈ l.entries, e.source = .profile →
        e.HoldsStored r p.Stores ∨ p.LeavesOut r e ∧ e ∈ s.entries ∧
          ∃ q, c.Selects profile (some q) ∧ e.HoldsStored r q.Stores) ∧
      ((∀ e ∈ l.entries, e.source = .profile → e.HoldsStored r p.Stores) ↔
        ∀ e ∈ s.entries, e.source = .profile → ¬ p.LeavesOut r e)) ∧
    ∀ (env : Environment) (c : Collection) (parent context : SettingsContext) (name : String)
      (overrides : Overrides),
      Sources.build ⟨r, env, c⟩ (.ok parent) ⟨true, some name, overrides⟩ = .ok context →
      context.profile = some name ∧ ∃ p, c.get? name = some p ∧
        (∀ e ∈ context.settings.entries, e.source = .profile →
          e.HoldsStored r p.Stores ∨ p.LeavesOut r e ∧ e ∈ parent.settings.entries) ∧
        ∀ profiles, parent.settings.ReadFrom r profiles →
          context.settings.ReadFrom r (p :: profiles) ∧
          ∀ e ∈ context.settings.entries, e.source = .profile →
            e.HoldsStored r fun d => Profile.FirstStored d (p :: profiles) := by
  obtain ⟨-, h⟩ := Registry.consistent_of_build hbuild
  refine ⟨fun env c profile overrides s l p hs hl => ⟨fun e he hsource => ?_, ?_⟩, ?_⟩
  · rcases mem_layerProfile_cases h hl he hsource with hheld | ⟨hnone, hbefore⟩
    · exact Or.inl hheld
    · exact Or.inr ⟨hnone, hbefore, holdsStored_of_resolve h hs hbefore hsource⟩
  · constructor
    · intro hall e he hsource hnone
      have hkept : e ∈ l.entries := mem_layerProfile_of_leavesOut h hl he hsource hnone
      exact (hall e hkept hsource).not_leavesOut hnone
    · intro hstored e he hsource
      rcases mem_layerProfile_cases h hl he hsource with hheld | ⟨hnone, hbefore⟩
      · exact hheld
      · exact absurd hnone (hstored e hbefore hsource)
  · intro env c parent context name overrides hok
    obtain ⟨hname, p, below, hmember, hbelow, habove⟩ := build_switched hok
    refine ⟨hname, p, hmember, fun e he hsource => ?_, fun profiles hparent => ?_⟩
    · exact mem_layerProfile_cases h hbelow (mem_of_mem_layer habove he hsource) hsource
    · have hread : context.settings.ReadFrom r (p :: profiles) :=
        .layered (.layeredProfile hparent hbelow) habove
      exact ⟨hread, fun e he hsource => hread.holdsStored h he hsource⟩

/-- A profile that stores the port of an address and nothing else. -/
def devProfile : Profile := ⟨⟨"dev", by decide⟩, .ofList [("PORT", .integer 8080)]⟩

/-- An address from a profile. -/
def storedAddress : Entry := ⟨"ADDRESS", some (.string "db:1"), .profile⟩

/-- The address settings of the default profile, with a host and a port. -/
def boxSettings (host port : Entry) : Settings :=
  ⟨[⟨"URL", some (.string "http://db:1/"), .default⟩, storedAddress, host, port]⟩

/-- The other profile stores no address. -/
theorem leavesOut_storedAddress :
    devProfile.LeavesOut ⟨"", none, addressCatalog⟩ storedAddress := by
  obtain ⟨-, h⟩ := Registry.consistent_of_build build_addressCatalog
  exact (profileSupply_eq_none_iff h rfl).mp (by decide +kernel)

/-- The port comes from the profile on top. The address is still that of the profile below, also in
a context that is called after the one on top. -/
theorem profile_provenance_of_address :
    ∃ r s l context port, Registry.build "" none addressCatalog = .ok r ∧
      resolve r (.ofList [("HOST", "box")]) ⟨[addressProfile, devProfile], none⟩ (some "default")
        .empty = .ok s ∧
      s.layerProfile r devProfile = .ok l ∧
      Sources.build ⟨r, .empty, ⟨[addressProfile, devProfile], none⟩⟩ (.ok ⟨s, some "default"⟩)
        ⟨true, some "dev", .ofList [("HOST", .string "lan")]⟩ = .ok context ∧
      l.get? "PORT" = some port ∧ port.HoldsStored r devProfile.Stores ∧
      l.get? "ADDRESS" = some storedAddress ∧ devProfile.LeavesOut r storedAddress ∧
      storedAddress ∈ s.entries ∧
      (∃ q, Collection.Selects ⟨[addressProfile, devProfile], none⟩ (some "default") (some q) ∧
        storedAddress.HoldsStored r q.Stores) ∧
      ¬ (∀ e ∈ l.entries, e.source = .profile → e.HoldsStored r devProfile.Stores) ∧
      context.profile = some "dev" ∧ storedAddress ∈ context.settings.entries ∧
      storedAddress.HoldsStored r fun d =>
        Profile.FirstStored d [devProfile, addressProfile] := by
  let r : Registry := ⟨"", none, addressCatalog⟩
  let c : Collection := ⟨[addressProfile, devProfile], none⟩
  let host : Entry := ⟨"HOST", some (.string "box"), .environment⟩
  let lan : Entry := ⟨"HOST", some (.string "lan"), .override⟩
  let low : Entry := ⟨"PORT", some (.integer 90), .profile⟩
  let port : Entry := ⟨"PORT", some (.integer 8080), .profile⟩
  have hs : resolve r (.ofList [("HOST", "box")]) c (some "default") .empty =
      .ok (boxSettings host low) := by decide +kernel
  have hl : (boxSettings host low).layerProfile r devProfile = .ok (boxSettings host port) := by
    decide +kernel
  have hcontext : Sources.build ⟨r, .empty, c⟩ (.ok ⟨boxSettings host low, some "default"⟩)
      ⟨true, some "dev", .ofList [("HOST", .string "lan")]⟩ =
      .ok ⟨boxSettings lan port, some "dev"⟩ := by decide +kernel
  have hread : (boxSettings host low).ReadFrom r [addressProfile] := .resolved (.named rfl) hs
  obtain ⟨hlayered, hframes⟩ := profile_provenance build_addressCatalog
  obtain ⟨hcases, hexact⟩ := hlayered _ _ _ _ _ _ _ hs hl
  obtain ⟨hname, p, hmember, -, hstacked⟩ := hframes _ _ _ _ _ _ hcontext
  cases hmember
  have hport : port.HoldsStored r devProfile.Stores := by
    rcases hcases port (by simp [boxSettings]) rfl with hheld | ⟨-, hbefore, -⟩
    · exact hheld
    · exact absurd hbefore (by decide +kernel)
  obtain ⟨hnone, hbefore, hselected⟩ :=
    (hcases storedAddress (by simp [boxSettings]) rfl).resolve_left fun hheld =>
      hheld.not_leavesOut leavesOut_storedAddress
  have hnot : ¬ ∀ e ∈ (boxSettings host port).entries, e.source = .profile →
      e.HoldsStored r devProfile.Stores := fun hall =>
    hexact.mp hall storedAddress hbefore rfl hnone
  exact ⟨r, _, _, _, port, build_addressCatalog, hs, hl, hcontext, rfl, hport, rfl, hnone, hbefore,
    hselected, hnot, hname, by simp [boxSettings],
    (hstacked _ hread).2 storedAddress (by simp [boxSettings]) rfl⟩

/-- A snapshot keeps the address of one profile, marked as from a profile, when another one is
layered on it that stores no address, and so does a context that is called after the latter. -/
theorem address_kept_from_other_profile :
    ∃ r s l context, Registry.build "" none addressCatalog = .ok r ∧
      resolve r (.ofList [("HOST", "box")]) ⟨[addressProfile, devProfile], none⟩ (some "default")
        .empty = .ok s ∧
      s.layerProfile r devProfile = .ok l ∧
      storedAddress ∈ l.entries ∧ storedAddress.source = .profile ∧
      Sources.build ⟨r, .empty, ⟨[addressProfile, devProfile], none⟩⟩ (.ok ⟨s, some "default"⟩)
        ⟨true, some "dev", .empty⟩ = .ok context ∧
      context.profile = some "dev" ∧ storedAddress ∈ context.settings.entries ∧
      ¬ storedAddress.HoldsStored r devProfile.Stores := by
  let host : Entry := ⟨"HOST", some (.string "box"), .environment⟩
  let low : Entry := ⟨"PORT", some (.integer 90), .profile⟩
  let port : Entry := ⟨"PORT", some (.integer 8080), .profile⟩
  refine ⟨⟨"", none, addressCatalog⟩, boxSettings host low, boxSettings host port,
    ⟨boxSettings host port, some "dev"⟩, build_addressCatalog, by decide +kernel, by decide +kernel,
    by simp [boxSettings], rfl, by decide +kernel, rfl, by simp [boxSettings], fun hheld => ?_⟩
  exact hheld.not_leavesOut leavesOut_storedAddress

end LayeredSettings
