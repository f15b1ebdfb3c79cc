import LayeredSettings.Proofs.Profile.Editing
import LayeredSettings.Proofs.Profile.StoredKeys
import LayeredSettings.Proofs.Settings.Equations

/-!
# What a batch changes

A batch that succeeds changes the settings that it names in one profile, and nothing else. Each
assigned setting then holds the last value that the batch assigns to it, as a reader of the profile
sees it; and where no two keys of the profile belonged to one setting, none do afterwards.
-/

namespace LayeredSettings

variable {r : Registry} {d : Definition}

/-- No two stored keys of a profile belong to one setting. -/
def Profile.OneKeyEach (r : Registry) (p : Profile) : Prop :=
  ∀ key ∈ p.settings.keys, ∀ other ∈ p.settings.keys, ∀ d,
    r.find? key = some d → r.find? other = some d → key = other

/-- What a batch of assignments and removals makes of a profile. -/
structure Profile.TakesBatch (r : Registry) (sets : List (String × Raw)) (unsets : List String)
    (p q : Profile) : Prop where
  /-- An assigned setting is stored under its name, and a reader of the profile finds the last value
  that was assigned to it. -/
  assigned : ∀ d ∈ r.definitions, d.NamedBy (sets.map (·.1)) →
    ∃ raw, d.lastAssigned? sets = some raw ∧ q.settings.get? d.name = some raw ∧
      (q.effective r).get? d.name = some raw
  /-- A setting that is neither assigned nor removed keeps all its stored keys and their values. -/
  kept : ∀ d ∈ r.definitions, ¬ d.NamedBy (sets.map (·.1)) → ¬ d.NamedBy unsets →
    ∀ key ∈ d.keys, q.settings.get? key = p.settings.get? key
  /-- Keys of no setting stay as they are. -/
  unknown : ∀ key, r.find? key = none → q.settings.get? key = p.settings.get? key
  /-- No setting comes to have several keys. -/
  oneKeyEach : p.OneKeyEach r → q.OneKeyEach r

/-- No two keys belong to one setting exactly if there is one key at most of each. -/
theorem Profile.oneKeyEach_iff (h : r.Consistent) {p : Profile} :
    p.OneKeyEach r ↔ ∀ d ∈ r.definitions, (d.storedKeys p.settings).length ≤ 1 := by
  constructor
  · intro hone d hd
    refine (length_le_one_iff_of_nodup (Definition.nodup_storedKeys h hd)).mpr ?_
    intro key hkey other hother
    obtain ⟨hkey, hstored⟩ := Definition.mem_storedKeys_iff.mp hkey
    obtain ⟨hother, hstored'⟩ := Definition.mem_storedKeys_iff.mp hother
    exact hone key (p.settings.contains_iff_mem_keys.mp hstored)
      other (p.settings.contains_iff_mem_keys.mp hstored') d
      (h.find?_eq_some_iff.mpr ⟨hd, hkey⟩) (h.find?_eq_some_iff.mpr ⟨hd, hother⟩)
  · intro hle key hkey other hother d hfind hfind'
    obtain ⟨hd, hkeyd⟩ := h.find?_eq_some_iff.mp hfind
    obtain ⟨-, hotherd⟩ := h.find?_eq_some_iff.mp hfind'
    have hstored := p.settings.contains_iff_mem_keys.mpr hkey
    have hstored' := p.settings.contains_iff_mem_keys.mpr hother
    exact (length_le_one_iff_of_nodup (Definition.nodup_storedKeys h hd)).mp (hle d hd)
      key (Definition.mem_storedKeys_iff.mpr ⟨hkeyd, hstored⟩)
      other (Definition.mem_storedKeys_iff.mpr ⟨hotherd, hstored'⟩)

namespace Collection

/-- A profile whose settings a batch rewrites takes the batch. -/
theorem Rewrites.takesBatch (h : r.Consistent) {sets : List (String × Raw)} {unsets : List String}
    {p : Profile} {settings : NameMap Raw}
    (hrewrites : Rewrites r sets unsets p.settings settings) :
    p.TakesBatch r sets unsets { p with settings } where
  assigned d hd hnamed := by
    obtain ⟨raw, hlast⟩ :=
      Option.isSome_iff_exists.mp (Definition.isSome_lastAssigned?_iff.mpr hnamed)
    have hname := hrewrites.assigned d hd raw hlast
    exact ⟨raw, hlast, hname, (Profile.get?_effective_eq_some_iff h hd).mpr (.named hname)⟩
  kept d hd hsets hunsets key hkey := by
    refine hrewrites.kept key fun e he => ?_
    cases (h.find?_eq_some_iff.mpr ⟨hd, hkey⟩).symm.trans he
    exact ⟨hsets, hunsets⟩
  unknown key hnone := hrewrites.kept key fun e he => by simp [hnone] at he
  oneKeyEach hone := by
    rw [Profile.oneKeyEach_iff h] at hone ⊢
    intro d hd
    change (d.storedKeys settings).length ≤ 1
    have hbefore := hone d hd
    by_cases hnamed : d.NamedBy (sets.map (·.1))
    · rw [hrewrites.replaced d hd hnamed]
      omega
    · have hleft := hrewrites.left d hd hnamed
      omega

/-- However a collection has come about, a batch that succeeds on it is taken by the profile that it
is for, in its place; all other profiles, their order and the pointer stay. -/
theorem update_takes_batch {envPrefix : String} {home : Home} {definitions : List Definition}
    (hbuild : Registry.build envPrefix home definitions = .ok r) {start : Collection}
    (hstart : start.Initial) (history : List Operation) {profile : String}
    {sets : List (String × Raw)} {unsets : List String} {applied : SettingsUpdate}
    {c' : Collection}
    (hok : (start.after history).update r profile sets unsets = .ok (applied, c')) :
    ∃ before p q after, (start.after history).profiles = before ++ p :: after ∧
      p.name.text = profile ∧ q.name = p.name ∧
      c' = ⟨before ++ q :: after, (start.after history).active⟩ ∧
      p.TakesBatch r sets unsets q := by
  obtain ⟨-, h⟩ := Registry.consistent_of_build hbuild
  obtain ⟨p, settings, hp, rfl, hrewrites⟩ := update_rewrites h hok
  obtain ⟨before, after, hsplit, hname, hput⟩ :=
    (hstart.wellFormed.after history).putSettings_of_get? hp
  exact ⟨before, p, { p with settings }, after, hsplit, hname, rfl, hput settings,
    hrewrites.takesBatch h⟩

/-- A profile with the old name of a host, a port, and a color that no setting answers to. -/
def serverProfile : Profile :=
  ⟨defaultName, .ofList [("COLOR", .text "red"), ("PORT", .integer 80), ("SERVER", .text "db")]⟩

/-- What brings about a copy of the profile, which is active. -/
def serverHistory : List Operation := [.copy serverProfile "dev", .setActive (some "dev")]

/-- Of two values for the host, the first by its old name, the second is there in the end. The port
goes, the color stays, and so does the active copy. -/
theorem update_takes_batch_of_server :
    ∃ r start applied c', Registry.build "" none addressCatalog = .ok r ∧
      ofProfiles [serverProfile] none = .ok start ∧ start.Initial ∧
      (start.after serverHistory).update r "default"
        [("SERVER", .text "a"), ("HOST", .text "b")] ["PORT"] = .ok (applied, c') ∧
      (c'.get? "default").map (·.settings.entries) =
        some [("COLOR", .text "red"), ("HOST", .text "b")] ∧
      c'.get? "dev" = c'.activeProfile? ∧
      ∃ before p q rest, (start.after serverHistory).profiles = before ++ p :: rest ∧
        p.name.text = "default" ∧ q.name = p.name ∧
        c' = ⟨before ++ q :: rest, (start.after serverHistory).active⟩ ∧
        p.TakesBatch r [("SERVER", .text "a"), ("HOST", .text "b")] ["PORT"] q := by
  have hstarted : ofProfiles [serverProfile] none = .ok ⟨[serverProfile], none⟩ := rfl
  have hok : (after ⟨[serverProfile], none⟩ serverHistory).update ⟨"", none, addressCatalog⟩
      "default" [("SERVER", .text "a"), ("HOST", .text "b")] ["PORT"] =
      .ok (⟨[("HOST", .text "a"), ("HOST", .text "b")], ["PORT"]⟩,
        ⟨[⟨defaultName, .ofList [("COLOR", .text "red"), ("HOST", .text "b")]⟩,
          { serverProfile with name := ⟨"dev", by decide⟩ }], some ⟨"dev", by decide⟩⟩) := by
    decide +kernel
  exact ⟨_, _, _, _, build_addressCatalog, hstarted, .ofProfiles hstarted, hok, by decide +kernel,
    by decide +kernel, update_takes_batch build_addressCatalog (.ofProfiles hstarted) _ hok⟩

end Collection

end LayeredSettings
