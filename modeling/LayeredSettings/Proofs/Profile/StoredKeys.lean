import LayeredSettings.Proofs.Profile.Assignment

/-!
# The keys that a setting is stored under

A profile may hold several keys of one setting, its name and deprecated names. Taking out a setting
takes out one of them, and storing a value puts the setting's name in place of one of them. So all
that a batch does to the keys of a setting is told by how many there are.
-/

namespace LayeredSettings

variable {r : Registry} {d e : Definition} {settings : NameMap Raw}

/-- The keys of a setting that a value is stored under. -/
def Definition.storedKeys (d : Definition) (settings : NameMap Raw) : List String :=
  d.keys.filter settings.contains

/-- Some key of a list belongs to the setting. -/
def Definition.NamedBy (d : Definition) (keys : List String) : Prop := ∃ key ∈ keys, key ∈ d.keys

/-- How many keys of a list belong to the setting. -/
def Definition.timesNamed (d : Definition) (keys : List String) : Nat := keys.countP (· ∈ d.keys)

/-- No key of a setting is given twice. -/
theorem Registry.Consistent.nodup_keys_of_mem (h : r.Consistent) (hd : d ∈ r.definitions) :
    d.keys.Nodup :=
  (List.nodup_flatMap.mp h.nodup_keys).1 d hd

/-- The setting that a key belongs to is the only one. -/
theorem Registry.Consistent.not_mem_keys (h : r.Consistent) (hd : d ∈ r.definitions)
    (he : e ∈ r.definitions) (hname : d.name ≠ e.name) {key : String} (hkey : key ∈ e.keys) :
    key ∉ d.keys := fun hkeyd =>
  hname (congrArg Definition.name (h.eq_of_shared_key hd he hkeyd hkey))

namespace Definition

/-- The last value assigned to a setting is there if the setting is named at all. -/
theorem isSome_lastAssigned?_iff {sets : List (String × Raw)} :
    (d.lastAssigned? sets).isSome ↔ d.NamedBy (sets.map (·.1)) := by
  simp [lastAssigned?, NamedBy]

/-- A key that is stored belongs to the setting, and a value stands under it. -/
theorem mem_storedKeys_iff {key : String} :
    key ∈ d.storedKeys settings ↔ key ∈ d.keys ∧ settings.contains key = true :=
  List.mem_filter

/-- No stored key of a setting is counted twice. -/
theorem nodup_storedKeys (h : r.Consistent) (hd : d ∈ r.definitions) :
    (d.storedKeys settings).Nodup :=
  (h.nodup_keys_of_mem hd).filter _

/-- A setting that no key is stored of. -/
theorem storedKeys_eq_nil_iff :
    d.storedKeys settings = [] ↔ ∀ key ∈ d.keys, settings.get? key = none := by
  simp [storedKeys, NameMap.contains]

/-- The stored keys of a setting are settled by what stands under the setting's keys. -/
theorem storedKeys_congr {other : NameMap Raw}
    (hsame : ∀ key ∈ d.keys, settings.get? key = other.get? key) :
    d.storedKeys settings = d.storedKeys other := by
  refine List.filter_congr fun key hkey => ?_
  unfold NameMap.contains
  rw [hsame key hkey]

/-- Where a value comes to stand under one more key of a setting, and nothing else changes for the
setting, one more key is stored. -/
theorem length_storedKeys_add {other : NameMap Raw} (hnodup : d.keys.Nodup) {key : String}
    (hkey : key ∈ d.keys) (hbefore : settings.get? key = none) (hafter : other.contains key = true)
    (hsame : ∀ k ∈ d.keys, k ≠ key → settings.get? k = other.get? k) :
    (d.storedKeys other).length = (d.storedKeys settings).length + 1 := by
  have hperm := List.perm_cons_erase hkey
  have hrest : (d.keys.erase key).filter other.contains =
      (d.keys.erase key).filter settings.contains := by
    refine List.filter_congr fun k hk => ?_
    obtain ⟨hne, hmem⟩ := (hnodup.mem_erase_iff).mp hk
    unfold NameMap.contains
    rw [hsame k hmem hne]
  have hnot : ¬ settings.contains key = true := by simp [NameMap.contains, hbefore]
  calc (d.storedKeys other).length
      = ((key :: d.keys.erase key).filter other.contains).length := (hperm.filter _).length_eq
    _ = ((d.keys.erase key).filter settings.contains).length + 1 := by
        rw [List.filter_cons_of_pos hafter, List.length_cons, hrest]
    _ = ((key :: d.keys.erase key).filter settings.contains).length + 1 := by
        rw [List.filter_cons_of_neg hnot]
    _ = (d.storedKeys settings).length + 1 := by rw [← (hperm.filter _).length_eq]; rfl

end Definition

namespace Profile

/-- No key of a setting is stored if none is found. -/
theorem storedKeys_eq_nil_of_storedKey? (h : r.Consistent) (hd : d ∈ r.definitions)
    (hnone : storedKey? r settings d.name = none) : d.storedKeys settings = [] := by
  refine Definition.storedKeys_eq_nil_iff.mpr fun key hkey => ?_
  unfold storedKey? at hnone
  split at hnone
  · cases hnone
  · refine settings.get?_eq_none_iff.mpr fun hmem => ?_
    simpa [h.find?_eq_some_iff.mpr ⟨hd, hkey⟩] using List.find?_eq_none.mp hnone key hmem

/-- The key that is found for a setting is stored, and it is the name unless that is not stored. -/
theorem mem_storedKeys_of_storedKey? (h : r.Consistent) (hd : d ∈ r.definitions) {stored : String}
    (hstored : storedKey? r settings d.name = some stored) :
    stored ∈ d.storedKeys settings ∧ (stored ≠ d.name → settings.get? d.name = none) := by
  have hkey := mem_keys_of_storedKey h hd hstored
  unfold storedKey? at hstored
  split at hstored
  · next hname =>
    cases hstored
    exact ⟨Definition.mem_storedKeys_iff.mpr ⟨hkey, hname⟩, fun hne => absurd rfl hne⟩
  · next hname =>
    have hmem := List.mem_of_find?_eq_some hstored
    have hcontains := settings.contains_iff_mem_keys.mpr hmem
    refine ⟨Definition.mem_storedKeys_iff.mpr ⟨hkey, hcontains⟩, fun _ => ?_⟩
    simpa [NameMap.contains] using hname

/-- With the key that is found for a setting one key of this setting goes, and none of another. -/
theorem length_storedKeys_erase (h : r.Consistent) (hd : d ∈ r.definitions)
    (he : e ∈ r.definitions) {stored : String}
    (hstored : storedKey? r settings e.name = some stored) :
    (d.storedKeys settings).length =
      (d.storedKeys (settings.erase stored)).length + if d.name = e.name then 1 else 0 := by
  obtain ⟨hmem, -⟩ := mem_storedKeys_of_storedKey? h he hstored
  obtain ⟨hkey, hcontains⟩ := Definition.mem_storedKeys_iff.mp hmem
  by_cases hname : d.name = e.name
  · cases h.eq_of_name_eq hd he hname
    rw [if_pos rfl]
    exact Definition.length_storedKeys_add (h.nodup_keys_of_mem hd) hkey
      (settings.get?_erase_self stored) hcontains fun k _ hne => settings.get?_erase_of_ne hne
  · rw [if_neg hname, Nat.add_zero, Definition.storedKeys_congr fun key hkeyd => ?_]
    refine (settings.get?_erase_of_ne ?_).symm
    rintro rfl
    exact h.not_mem_keys hd he hname hkey hkeyd

end Profile

namespace Collection

/-- A value put in place of one key of a setting leaves the keys of all other settings alone. -/
theorem get?_replace_of_not_mem (h : r.Consistent) (he : e ∈ r.definitions) (raw : Raw)
    {key : String} (hkey : key ∉ e.keys) :
    (replace r settings e raw).get? key = settings.get? key := by
  have hname : key ≠ e.name := fun heq => hkey (heq ▸ List.mem_cons_self)
  unfold replace
  rw [NameMap.get?_insert, if_neg hname]
  cases hstored : Profile.storedKey? r settings e.name with
  | none => rfl
  | some stored =>
    refine settings.get?_erase_of_ne ?_
    rintro rfl
    exact hkey (Profile.mem_keys_of_storedKey h he hstored)

/-- A value put in place of one key of a setting leaves as many keys of this setting as there were,
but at least one, and all keys of other settings. -/
theorem length_storedKeys_replace (h : r.Consistent) (hd : d ∈ r.definitions)
    (he : e ∈ r.definitions) (raw : Raw) :
    (d.storedKeys (replace r settings e raw)).length =
      if d.name = e.name then max 1 (d.storedKeys settings).length
      else (d.storedKeys settings).length := by
  by_cases hname : d.name = e.name
  · cases h.eq_of_name_eq hd he hname
    rw [if_pos rfl]
    unfold replace
    have hinsert (cleared : NameMap Raw) (hfree : cleared.get? d.name = none) :
        (d.storedKeys (cleared.insert d.name raw)).length =
          (d.storedKeys cleared).length + 1 := by
      refine Definition.length_storedKeys_add (h.nodup_keys_of_mem hd) List.mem_cons_self hfree
        ?_ fun k _ hne => ?_
      · simp [NameMap.contains, NameMap.get?_insert]
      · rw [NameMap.get?_insert, if_neg hne]
    cases hstored : Profile.storedKey? r settings d.name with
    | none =>
      have hnil := Profile.storedKeys_eq_nil_of_storedKey? h hd hstored
      dsimp only
      rw [hinsert settings (Definition.storedKeys_eq_nil_iff.mp hnil _ List.mem_cons_self), hnil]
      rfl
    | some stored =>
      -- The name is free now, either because it went or because an old name did.
      have hfree : (settings.erase stored).get? d.name = none := by
        by_cases hsame : stored = d.name
        · rw [hsame, settings.get?_erase_self]
        · rw [settings.get?_erase_of_ne (Ne.symm hsame)]
          exact (Profile.mem_storedKeys_of_storedKey? h hd hstored).2 hsame
      have hlength := Profile.length_storedKeys_erase h hd hd hstored
      rw [if_pos rfl] at hlength
      dsimp only
      rw [hinsert _ hfree]
      omega
  · rw [if_neg hname, Definition.storedKeys_congr fun key hkey =>
      get?_replace_of_not_mem h he raw fun hkeye => h.not_mem_keys hd he hname hkeye hkey]

section Removed

variable {unsets : List String} {found : List (Definition × String)} {profile : String}
  {kept : NameMap Raw} (h : r.Consistent)
  (hfound : List.Forall₂ (fun key x => r.find? key = some x.1) unsets found)
  (hok : removeAll r profile settings found = .ok kept)
include h hfound hok

/-- Taking settings out leaves alone the keys that belong to none of them. -/
theorem get?_removeAll {key : String}
    (hother : ∀ d, r.find? key = some d → ¬ d.NamedBy unsets) :
    kept.get? key = settings.get? key := by
  induction hfound generalizing settings with
  | nil =>
    cases hok
    rfl
  | @cons unset x rest tail hfind _ ih =>
    obtain ⟨e, text⟩ := x
    obtain ⟨he, hunset⟩ : e ∈ r.definitions ∧ unset ∈ e.keys := h.find?_eq_some_iff.mp hfind
    rw [removeAll] at hok
    cases hstored : Profile.storedKey? r settings e.name with
    | none => simp [hstored] at hok
    | some stored =>
      rw [hstored] at hok
      rw [ih hok fun d hd hnamed => hother d hd (hnamed.imp fun _ hmem =>
        ⟨List.mem_cons_of_mem _ hmem.1, hmem.2⟩)]
      refine settings.get?_erase_of_ne ?_
      rintro rfl
      have hkey := Profile.mem_keys_of_storedKey h he hstored
      exact hother e (h.find?_eq_some_iff.mpr ⟨he, hkey⟩) ⟨unset, List.mem_cons_self, hunset⟩

/-- Each time a setting is taken out one of its stored keys goes. -/
theorem length_storedKeys_removeAll (hd : d ∈ r.definitions) :
    (d.storedKeys settings).length = (d.storedKeys kept).length + d.timesNamed unsets := by
  induction hfound generalizing settings with
  | nil =>
    cases hok
    rfl
  | @cons unset x rest tail hfind _ ih =>
    obtain ⟨e, text⟩ := x
    obtain ⟨he, hunset⟩ : e ∈ r.definitions ∧ unset ∈ e.keys := h.find?_eq_some_iff.mp hfind
    rw [removeAll] at hok
    cases hstored : Profile.storedKey? r settings e.name with
    | none => simp [hstored] at hok
    | some stored =>
      rw [hstored] at hok
      have hiff : d.name = e.name ↔ unset ∈ d.keys :=
        ⟨fun hname => h.eq_of_name_eq hd he hname ▸ hunset, fun hmem =>
          congrArg Definition.name (h.eq_of_shared_key hd he hmem hunset)⟩
      have htimes : d.timesNamed (unset :: rest) =
          d.timesNamed rest + if d.name = e.name then 1 else 0 := by
        unfold Definition.timesNamed
        rw [List.countP_cons]
        simp only [hiff, decide_eq_true_eq]
      rw [Profile.length_storedKeys_erase h hd he hstored, ih hok, htimes, Nat.add_assoc]

end Removed

section Assigned

variable {sets : List (String × Raw)} {found : List (Definition × Raw)} (h : r.Consistent)
  (hfound : r.Finds sets found)
include h hfound

/-- Assignments leave alone the keys that belong to none of their settings. -/
theorem get?_foldl_replace_of_not_named {key : String}
    (hother : ∀ d, r.find? key = some d → ¬ d.NamedBy (sets.map (·.1))) :
    (found.foldl (fun settings (d, raw) => replace r settings d raw) settings).get? key =
      settings.get? key := by
  induction hfound generalizing settings with
  | nil => rfl
  | @cons set x rest tail hfirst _ ih =>
    obtain ⟨e, raw⟩ := x
    obtain ⟨he, hset⟩ : e ∈ r.definitions ∧ set.1 ∈ e.keys := h.find?_eq_some_iff.mp hfirst.1
    rw [List.foldl_cons, ih fun d hd hnamed => hother d hd (hnamed.imp fun _ hmem =>
      ⟨List.mem_cons_of_mem _ hmem.1, hmem.2⟩)]
    refine get?_replace_of_not_mem h he raw fun hkey => ?_
    exact hother e (h.find?_eq_some_iff.mpr ⟨he, hkey⟩) ⟨set.1, List.mem_cons_self, hset⟩

/-- After assignments there are as many keys of an assigned setting as there were, but at least one.
-/
theorem length_storedKeys_foldl_replace (hd : d ∈ r.definitions)
    (hnamed : d.NamedBy (sets.map (·.1))) :
    (d.storedKeys (found.foldl (fun settings (d, raw) => replace r settings d raw)
      settings)).length = max 1 (d.storedKeys settings).length := by
  induction hfound generalizing settings with
  | nil => simp [Definition.NamedBy] at hnamed
  | @cons set x rest tail hfirst hrest ih =>
    obtain ⟨e, raw⟩ := x
    obtain ⟨he, hset⟩ : e ∈ r.definitions ∧ set.1 ∈ e.keys := h.find?_eq_some_iff.mp hfirst.1
    have hstep : (d.storedKeys (replace r settings e raw)).length =
        if d.name = e.name then max 1 (d.storedKeys settings).length
        else (d.storedKeys settings).length := length_storedKeys_replace h hd he raw
    rw [List.foldl_cons]
    -- If the setting is not assigned again, the first assignment is what settles its keys.
    by_cases hlater : d.NamedBy (rest.map (·.1))
    · rw [ih hlater, hstep]
      split <;> omega
    · have hkey : set.1 ∈ d.keys := by
        obtain ⟨key, hmem, hkey⟩ := hnamed
        rcases List.mem_cons.mp hmem with rfl | hmem
        · exact hkey
        · exact absurd ⟨key, hmem, hkey⟩ hlater
      rw [if_pos (congrArg Definition.name (h.eq_of_shared_key hd he hkey hset))] at hstep
      rw [← hstep, Definition.storedKeys_congr fun key hkey => ?_]
      refine get?_foldl_replace_of_not_named h hrest fun f hf => ?_
      cases (h.find?_eq_some_iff.mpr ⟨hd, hkey⟩).symm.trans hf
      exact hlater

end Assigned

/-- What a batch makes of the stored settings of a profile. -/
structure Rewrites (r : Registry) (sets : List (String × Raw)) (unsets : List String)
    (before after : NameMap Raw) : Prop where
  /-- Under the name of an assigned setting stands the last value assigned to it. -/
  assigned : ∀ d ∈ r.definitions, ∀ raw, d.lastAssigned? sets = some raw →
    after.get? d.name = some raw
  /-- Keys of settings that are not named, and of no setting, keep their values. -/
  kept : ∀ key, (∀ d, r.find? key = some d →
    ¬ d.NamedBy (sets.map (·.1)) ∧ ¬ d.NamedBy unsets) → after.get? key = before.get? key
  /-- Of a setting that is not assigned a key goes each time that it is taken out. -/
  left : ∀ d ∈ r.definitions, ¬ d.NamedBy (sets.map (·.1)) →
    (d.storedKeys before).length = (d.storedKeys after).length + d.timesNamed unsets
  /-- Of a setting that is assigned the keys are left that were not taken out, but at least one. -/
  replaced : ∀ d ∈ r.definitions, d.NamedBy (sets.map (·.1)) →
    (d.storedKeys after).length = max 1 ((d.storedKeys before).length - d.timesNamed unsets)

/-- An update that succeeds rewrites the settings of the profile that it is for. -/
theorem update_rewrites (h : r.Consistent) {c c' : Collection} {profile : String}
    {sets : List (String × Raw)} {unsets : List String} {applied : SettingsUpdate}
    (hok : c.update r profile sets unsets = .ok (applied, c')) :
    ∃ p settings, c.get? profile = some p ∧ c' = c.putSettings profile settings ∧
      Rewrites r sets unsets p.settings settings := by
  obtain ⟨p, assigned, taken, kept, hp, hsets, htaken, hkept, -, -, rfl⟩ :=
    update_eq_ok_iff.mp hok
  have hunsets : List.Forall₂ (fun key x => r.find? key = some x.1) unsets taken :=
    htaken.imp fun _ _ hfound => hfound.1
  have hcount (d : Definition) (hd : d ∈ r.definitions) :=
    length_storedKeys_removeAll h hunsets hkept hd
  refine ⟨p, _, hp, rfl, ?_, ?_, ?_, ?_⟩
  · intro d hd raw hlast
    rw [get?_foldl_replace h hd hsets, hlast]
    rfl
  · intro key hother
    rw [get?_foldl_replace_of_not_named h hsets fun d hd => (hother d hd).1,
      get?_removeAll h hunsets hkept fun d hd => (hother d hd).2]
  · intro d hd hnot
    rw [hcount d hd, Definition.storedKeys_congr fun key hkey => ?_]
    refine (get?_foldl_replace_of_not_named h hsets fun e he => ?_).symm
    cases (h.find?_eq_some_iff.mpr ⟨hd, hkey⟩).symm.trans he
    exact hnot
  · intro d hd hnamed
    rw [hcount d hd, Nat.add_sub_cancel, length_storedKeys_foldl_replace h hsets hd hnamed]

end Collection

end LayeredSettings
