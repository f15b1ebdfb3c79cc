import LayeredSettings.Proofs.Profile.BatchEffect
import LayeredSettings.Proofs.Settings.Independence
import LayeredSettings.Proofs.Settings.ProfileLayering

/-!
# Keys that a batch leaves behind

Each time a batch names a setting it gets rid of one stored key of the setting. A profile that was
stored with several keys of one setting may therefore still supply a value for it after the setting
was removed. How many keys there were, and how often the batch names the setting, settles whether
any key is left.
-/

namespace LayeredSettings

variable {r : Registry} {d : Definition} {q : Profile}

/-- Of all keys of a setting exactly its name is stored. -/
def Profile.StoresOnlyName (q : Profile) (d : Definition) : Prop :=
  ∀ key ∈ d.keys, q.settings.contains key = true ↔ key = d.name

/-- No settings that are resolved with a profile have a value of a setting from it. -/
def Profile.NeverSupplies (r : Registry) (q : Profile) (d : Definition) : Prop :=
  ∀ (env : Environment) (c : Collection) (choice : Option String) (overrides : Overrides)
    (s : Settings), c.Selects choice (some q) → resolve r env c choice overrides = .ok s →
      ¬ s.FromProfile d

/-- Wherever a profile is, removing a setting from it by any key succeeds and leaves no key of the
setting. -/
def Profile.ClearedByUnset (r : Registry) (q : Profile) (d : Definition) : Prop :=
  ∀ (c : Collection) (profile key : String), c.get? profile = some q → key ∈ d.keys →
    ∃ c' cleared, c.unset r profile key = .ok c' ∧ c'.get? profile = some cleared ∧
      Profile.Omits (some cleared) d

namespace Profile

/-- A profile omits a setting if it stores no key of it. -/
theorem omits_iff : Omits (some q) d ↔ (d.storedKeys q.settings).length = 0 := by
  rw [List.length_eq_zero_iff, Definition.storedKeys_eq_nil_iff]
  simp [Omits]

/-- Where the name of a setting is stored, it is the only key exactly if there is one key at most.
-/
theorem storesOnlyName_iff (h : r.Consistent) (hd : d ∈ r.definitions)
    (hname : q.settings.contains d.name = true) :
    q.StoresOnlyName d ↔ (d.storedKeys q.settings).length ≤ 1 := by
  have hmem : d.name ∈ d.storedKeys q.settings :=
    Definition.mem_storedKeys_iff.mpr ⟨List.mem_cons_self, hname⟩
  rw [length_le_one_iff_of_nodup (Definition.nodup_storedKeys h hd)]
  constructor
  · intro honly key hkey other hother
    obtain ⟨hkey, hstored⟩ := Definition.mem_storedKeys_iff.mp hkey
    obtain ⟨hother, hstored'⟩ := Definition.mem_storedKeys_iff.mp hother
    rw [(honly key hkey).mp hstored, (honly other hother).mp hstored']
  · intro hsame key hkey
    constructor
    · intro hstored
      exact hsame key (Definition.mem_storedKeys_iff.mpr ⟨hkey, hstored⟩) d.name hmem
    · rintro rfl
      exact hname

/-- What a profile omits it supplies nothing for. -/
theorem Omits.neverSupplies (h : r.Consistent) (hd : d ∈ r.definitions)
    (homits : Omits (some q) d) : q.NeverSupplies r d := by
  rintro env c choice overrides s hselects hok ⟨e, he, hsource⟩
  obtain ⟨chosen, named, hchosen, -, hfits, hentries⟩ := resolve_eq_ok hok
  cases (selects_of_chosenProfile hchosen).unique hselects
  have hnone : (storedValues r (some q)).get? d.name = none := by
    refine Option.eq_none_iff_forall_ne_some.mpr fun raw hraw => ?_
    obtain ⟨key, hkey, hget⟩ := (stores_of_get?_effective h hd hraw).exists_key
    rw [homits q rfl key hkey] at hget
    cases hget
  have hsupplies : supplies r (storedValues r (some q)) env named d =
      supplies r .empty env named d := by
    rw [supplies_eq_profile_append, profileFor, hnone]
    rfl
  rw [source_of_expanded h hentries hd he, hsupplies] at hsource
  by_cases hempty : supplies r .empty env named d = []
  · simp [hempty] at hsource
  · obtain ⟨-, supply, hmem, hfrom⟩ :=
      mergedEntry_append d [] (hsupplies ▸ hfits d hd) hempty
    rw [hfrom] at hsource
    rcases source_of_mem_supplies hmem with henv | hoverride
    · simp [henv] at hsource
    · simp [hoverride] at hsource

/-- A setting of which only the name is stored is cleared by removing it. -/
theorem StoresOnlyName.clearedByUnset (h : r.Consistent) (hd : d ∈ r.definitions)
    (honly : q.StoresOnlyName d) : q.ClearedByUnset r d := by
  intro c profile key hget hkey
  have hname : q.settings.contains d.name = true := (honly d.name List.mem_cons_self).mpr rfl
  have hfind : r.find? key = some d := h.find?_eq_some_iff.mpr ⟨hd, hkey⟩
  have hstored : storedKey? r q.settings d.name = some d.name := if_pos hname
  have hok : c.unset r profile key = .ok (c.putSettings profile (q.settings.erase d.name)) :=
    bind_of_ok (Collection.update_of_storedKey hget hfind hstored)
  refine ⟨_, _, hok, Collection.get?_putSettings hget, ?_⟩
  rintro cleared hcleared other hother
  cases hcleared
  by_cases heq : other = d.name
  · rw [heq, NameMap.get?_erase_self]
  · have hnot : ¬ q.settings.contains other = true := mt (honly other hother).mp heq
    rw [NameMap.get?_erase_of_ne _ heq]
    simpa [NameMap.contains] using hnot

end Profile

/-- After a batch no key is left of a setting that is not assigned exactly if the batch has removed
it as often as there were keys, and then the profile supplies nothing for it. Of a setting that is
assigned exactly the name is left if at most one key more was there, and then removing the setting
clears it. -/
theorem keys_left_by_update {envPrefix : String} {home : Home} {definitions : List Definition}
    (hbuild : Registry.build envPrefix home definitions = .ok r) {c c' : Collection}
    {profile : String} {sets : List (String × Raw)} {unsets : List String}
    {applied : SettingsUpdate} (hok : c.update r profile sets unsets = .ok (applied, c')) :
    ∃ p q, c.get? profile = some p ∧ c'.get? profile = some q ∧ ∀ d ∈ r.definitions,
      (¬ d.NamedBy (sets.map (·.1)) →
        (Profile.Omits (some q) d ↔
          (d.storedKeys p.settings).length ≤ d.timesNamed unsets) ∧
        (Profile.Omits (some q) d → q.NeverSupplies r d)) ∧
      (d.NamedBy (sets.map (·.1)) →
        (q.StoresOnlyName d ↔
          (d.storedKeys p.settings).length ≤ d.timesNamed unsets + 1) ∧
        (q.StoresOnlyName d → q.ClearedByUnset r d)) := by
  obtain ⟨-, h⟩ := Registry.consistent_of_build hbuild
  obtain ⟨p, settings, hp, rfl, hrewrites⟩ := Collection.update_rewrites h hok
  refine ⟨p, { p with settings }, hp, Collection.get?_putSettings hp, fun d hd => ⟨?_, ?_⟩⟩
  · intro hnot
    refine ⟨?_, Profile.Omits.neverSupplies h hd⟩
    have hleft := hrewrites.left d hd hnot
    rw [Profile.omits_iff]
    dsimp only
    omega
  · intro hnamed
    refine ⟨?_, Profile.StoresOnlyName.clearedByUnset h hd⟩
    obtain ⟨raw, hlast⟩ :=
      Option.isSome_iff_exists.mp (Definition.isSome_lastAssigned?_iff.mpr hnamed)
    have hname : settings.contains d.name = true := by
      simp [NameMap.contains, hrewrites.assigned d hd raw hlast]
    rw [Profile.storesOnlyName_iff h hd hname, hrewrites.replaced d hd hnamed]
    omega

/-- A profile with a host under its name and under its old name, and a port. -/
def doubleProfile : Profile :=
  ⟨Collection.defaultName,
    .ofList [("HOST", .text "box"), ("PORT", .integer 80), ("SERVER", .text "db")]⟩

/-- A host that is removed by both of its names is gone. -/
theorem keys_left_by_update_of_double :
    ∃ r host port q applied c', Registry.build "" none addressCatalog = .ok r ∧
      r.find? "HOST" = some host ∧ r.find? "PORT" = some port ∧
      Collection.update ⟨[doubleProfile], none⟩ r "default" [("PORT", .integer 81)]
        ["SERVER", "HOST"] = .ok (applied, c') ∧
      c'.get? "default" = some q ∧
      Profile.Omits (some q) host ∧ q.NeverSupplies r host ∧
      q.StoresOnlyName port ∧ q.ClearedByUnset r port := by
  let host := addressCatalog[2]
  let port := addressCatalog[3]
  have hok : Collection.update ⟨[doubleProfile], none⟩ ⟨"", none, addressCatalog⟩ "default"
      [("PORT", .integer 81)] ["SERVER", "HOST"] =
      .ok (⟨[("PORT", .integer 81)], ["HOST", "HOST"]⟩,
        ⟨[⟨Collection.defaultName, .ofList [("PORT", .integer 81)]⟩], none⟩) := by
    decide +kernel
  have hhost : host ∈ addressCatalog :=
    List.mem_cons_of_mem _ (List.mem_cons_of_mem _ List.mem_cons_self)
  have hport : port ∈ addressCatalog := List.mem_cons_of_mem _
    (List.mem_cons_of_mem _ (List.mem_cons_of_mem _ List.mem_cons_self))
  have hnamed : ¬ host.NamedBy ["PORT"] ∧ port.NamedBy ["PORT"] := by
    unfold Definition.NamedBy
    decide +kernel
  obtain ⟨p, q, hp, hq, hkeys⟩ := keys_left_by_update build_addressCatalog hok
  have hp : doubleProfile = p := Option.some.inj hp
  subst hp
  obtain ⟨homits, hnever⟩ := (hkeys host hhost).1 hnamed.1
  obtain ⟨honly, hcleared⟩ := (hkeys port hport).2 hnamed.2
  have hgone := homits.mpr (by decide +kernel)
  have hleft := honly.mpr (by decide +kernel)
  exact ⟨_, host, port, q, _, _, build_addressCatalog, rfl, rfl, hok, hq, hgone, hnever hgone,
    hleft, hcleared hleft⟩

/-- A host that is removed once stays under its old name, from which it is still resolved. One that
is assigned keeps its old name too, and removing it then only takes the new value away. -/
theorem old_name_survives :
    ∃ r applied assigned removed set unset s, Registry.build "" none addressCatalog = .ok r ∧
      Collection.update ⟨[doubleProfile], none⟩ r "default" [] ["HOST"] =
        .ok (applied, removed) ∧
      (removed.get? "default").map (·.settings.keys) = some ["PORT", "SERVER"] ∧
      resolve r .empty removed (some "default") .empty = .ok s ∧
      s.get? "HOST" = some ⟨"HOST", some (.string "db"), .profile⟩ ∧
      Collection.update ⟨[doubleProfile], none⟩ r "default" [("HOST", .text "new")] [] =
        .ok (assigned, set) ∧
      (set.get? "default").map (·.settings.keys) = some ["HOST", "PORT", "SERVER"] ∧
      set.unset r "default" "HOST" = .ok unset ∧
      (unset.get? "default").map (·.settings.keys) = some ["PORT", "SERVER"] := by
  refine ⟨_, ⟨[], ["HOST"]⟩, ⟨[("HOST", .text "new")], []⟩,
    ⟨[⟨Collection.defaultName, .ofList [("PORT", .integer 80), ("SERVER", .text "db")]⟩], none⟩,
    ⟨[⟨Collection.defaultName,
      .ofList [("HOST", .text "new"), ("PORT", .integer 80), ("SERVER", .text "db")]⟩], none⟩,
    ⟨[⟨Collection.defaultName, .ofList [("PORT", .integer 80), ("SERVER", .text "db")]⟩], none⟩,
    ⟨[⟨"URL", some (.string "http://db:80/"), .default⟩,
      ⟨"ADDRESS", some (.string "db:80"), .default⟩, ⟨"HOST", some (.string "db"), .profile⟩,
      ⟨"PORT", some (.integer 80), .profile⟩]⟩, build_addressCatalog, ?_⟩
  decide +kernel

end LayeredSettings
