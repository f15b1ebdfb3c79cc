import LayeredSettings.Proofs.Profile.BatchEffect

/-!
# A batch and its steps

A batch takes all its removals out first and stores all its values then, and each of these could be
done by an operation of its own. Whether a key is known or a value fits does not depend on what is
stored, so doing the operations one after another succeeds whenever the batch does, and leaves the
same collection. Only a batch of nothing differs: it still asks for its profile.
-/

namespace LayeredSettings

variable {r : Registry} {c c' : Collection} {profile : String} {p : Profile}
  {settings : NameMap Raw}

/-- The operations that a batch stands for: each removal in turn, then each assignment. -/
def Operation.steps (r : Registry) (profile : String) (sets : List (String × Raw))
    (unsets : List String) : List Operation :=
  unsets.map (.unset r profile) ++ sets.map fun (key, raw) => .set r profile key raw

namespace Collection

/-- The collection after operations of which each succeeds, or the first error. -/
def applyAll (c : Collection) (ops : List Operation) : Except SettingsError Collection :=
  ops.foldlM (fun c op => op.apply c) c

/-- After the first operation the others follow. -/
theorem applyAll_cons_eq_ok_iff {op : Operation} {rest : List Operation} :
    c.applyAll (op :: rest) = .ok c' ↔
      ∃ next, op.apply c = .ok next ∧ next.applyAll rest = .ok c' := by
  unfold applyAll
  rw [List.foldlM_cons]
  constructor
  · exact bind_eq_ok
  · rintro ⟨next, hnext, hrest⟩
    rw [hnext]
    exact hrest

/-- After some operations the others follow. -/
theorem applyAll_append_eq_ok_iff {ops rest : List Operation} :
    c.applyAll (ops ++ rest) = .ok c' ↔
      ∃ next, c.applyAll ops = .ok next ∧ next.applyAll rest = .ok c' := by
  unfold applyAll
  rw [List.foldlM_append]
  constructor
  · exact bind_eq_ok
  · rintro ⟨next, hnext, hrest⟩
    rw [hnext]
    exact hrest

/-- Settings that are put again replace those put before. -/
theorem putSettings_putSettings (c : Collection) (name : String) (before after : NameMap Raw) :
    (c.putSettings name before).putSettings name after = c.putSettings name after := by
  unfold putSettings
  rw [List.map_map]
  congr 2
  funext q
  dsimp only [Function.comp]
  split <;> rfl

/-- A profile that gets the settings it has stays as it is. -/
theorem WellFormed.putSettings_self (h : c.WellFormed) (hp : c.get? profile = some p) :
    c.putSettings profile p.settings = c := by
  obtain ⟨before, after, hsplit, -, hput⟩ := h.putSettings_of_get? hp
  rw [hput, ← hsplit]

/-- A setting can be taken out exactly if its key is known and a key of it is stored. -/
theorem unset_eq_ok_iff (hp : c.get? profile = some p) {key : String} :
    c.unset r profile key = .ok c' ↔ ∃ d stored, r.find? key = some d ∧
      Profile.storedKey? r p.settings d.name = some stored ∧
      c' = c.putSettings profile (p.settings.erase stored) := by
  constructor
  · intro hok
    obtain ⟨⟨applied, changed⟩, hupdate, hok⟩ := bind_eq_ok hok
    cases hok
    obtain ⟨q, _, _, kept, hq, ⟨⟩, htaken, hkept, -, -, rfl⟩ := update_eq_ok_iff.mp hupdate
    cases hp.symm.trans hq
    obtain ⟨⟨d, _⟩, _, ⟨hfind, rfl⟩, ⟨⟩, rfl⟩ := List.forall₂_cons_left_iff.mp htaken
    rw [removeAll] at hkept
    cases hstored : Profile.storedKey? r p.settings d.name with
    | none => simp [hstored] at hkept
    | some stored =>
      rw [hstored] at hkept
      cases hkept
      exact ⟨d, stored, hfind, hstored, rfl⟩
  · rintro ⟨d, stored, hfind, hstored, rfl⟩
    exact bind_of_ok (update_of_storedKey hp hfind hstored)

/-- A value can be stored exactly if its key is known and it fits the setting. -/
theorem set_eq_ok_iff (hp : c.get? profile = some p) {key : String} {raw : Raw} :
    c.set r profile key raw = .ok c' ↔ ∃ d, r.find? key = some d ∧
      batchFailures r [(d, raw)] = [] ∧
      c' = c.putSettings profile (replace r p.settings d raw) := by
  constructor
  · intro hok
    obtain ⟨⟨applied, changed⟩, hupdate, hok⟩ := bind_eq_ok hok
    cases hok
    obtain ⟨q, assigned, _, kept, hq, hassigned, ⟨⟩, hkept, hfits, -, rfl⟩ :=
      update_eq_ok_iff.mp hupdate
    cases hp.symm.trans hq
    cases hkept
    obtain ⟨⟨d, _⟩, _, ⟨hfind, rfl⟩, ⟨⟩, rfl⟩ := List.forall₂_cons_left_iff.mp hassigned
    exact ⟨d, hfind, hfits, rfl⟩
  · rintro ⟨d, hfind, hfits, rfl⟩
    have hassigned : r.Finds [(key, raw)] [(d, raw)] := .cons ⟨hfind, rfl⟩ .nil
    exact bind_of_ok (update_eq_ok_iff.mpr
      ⟨p, _, [], p.settings, hp, hassigned, .nil, rfl, hfits, rfl, rfl⟩)

section Steps

variable (hp : c.get? profile = some p)
include hp

/-- Removals one after another take out what a batch of them takes out. -/
theorem applyAll_unsets_eq_ok_iff {unsets : List String} :
    (c.putSettings profile settings).applyAll (unsets.map (.unset r profile)) = .ok c' ↔
      ∃ taken kept, r.FindsKeys unsets taken ∧
        removeAll r profile settings taken = .ok kept ∧ c' = c.putSettings profile kept := by
  induction unsets generalizing settings with
  | nil =>
    constructor
    · rintro ⟨⟩
      exact ⟨[], settings, .nil, rfl, rfl⟩
    · rintro ⟨_, _, ⟨⟩, ⟨⟩, rfl⟩
      rfl
  | cons key rest ih =>
    have hget : (c.putSettings profile settings).get? profile = some { p with settings } :=
      get?_putSettings hp
    rw [List.map_cons, applyAll_cons_eq_ok_iff]
    constructor
    · rintro ⟨next, hnext, hrest⟩
      obtain ⟨d, stored, hfind, hstored, rfl⟩ := (unset_eq_ok_iff hget).mp hnext
      rw [putSettings_putSettings, ih] at hrest
      obtain ⟨taken, kept, htaken, hkept, rfl⟩ := hrest
      refine ⟨(d, key) :: taken, kept, .cons ⟨hfind, rfl⟩ htaken, ?_, rfl⟩
      rw [removeAll, hstored]
      exact hkept
    · rintro ⟨_, kept, hall, hkept, rfl⟩
      obtain ⟨⟨d, _⟩, taken, ⟨hfind, rfl⟩, htaken, rfl⟩ := List.forall₂_cons_left_iff.mp hall
      rw [removeAll] at hkept
      cases hstored : Profile.storedKey? r settings d.name with
      | none => simp [hstored] at hkept
      | some stored =>
        rw [hstored] at hkept
        refine ⟨_, (unset_eq_ok_iff hget).mpr ⟨d, stored, hfind, hstored, rfl⟩, ?_⟩
        rw [putSettings_putSettings, ih]
        exact ⟨taken, kept, htaken, hkept, rfl⟩

/-- Assignments one after another store what a batch of them stores. -/
theorem applyAll_sets_eq_ok_iff {sets : List (String × Raw)} :
    (c.putSettings profile settings).applyAll
      (sets.map fun (key, raw) => .set r profile key raw) = .ok c' ↔
      ∃ assigned, r.Finds sets assigned ∧ batchFailures r assigned = [] ∧
        c' = c.putSettings profile
          (assigned.foldl (fun settings (d, raw) => replace r settings d raw) settings) := by
  induction sets generalizing settings with
  | nil =>
    constructor
    · rintro ⟨⟩
      exact ⟨[], .nil, rfl, rfl⟩
    · rintro ⟨_, ⟨⟩, -, rfl⟩
      rfl
  | cons set rest ih =>
    obtain ⟨key, raw⟩ := set
    have hget : (c.putSettings profile settings).get? profile = some { p with settings } :=
      get?_putSettings hp
    have hfits (d : Definition) (assigned : List (Definition × Raw)) :
        batchFailures r ((d, raw) :: assigned) = [] ↔
          batchFailures r [(d, raw)] = [] ∧ batchFailures r assigned = [] := by
      unfold batchFailures
      rw [← List.append_eq_nil_iff, ← List.filterMap_append, List.singleton_append]
    rw [List.map_cons, applyAll_cons_eq_ok_iff]
    constructor
    · rintro ⟨next, hnext, hrest⟩
      obtain ⟨d, hfind, hfirst, rfl⟩ := (set_eq_ok_iff hget).mp hnext
      rw [putSettings_putSettings, ih] at hrest
      obtain ⟨assigned, hassigned, hothers, rfl⟩ := hrest
      exact ⟨(d, raw) :: assigned, .cons ⟨hfind, rfl⟩ hassigned,
        (hfits d assigned).mpr ⟨hfirst, hothers⟩, rfl⟩
    · rintro ⟨_, hall, hnone, rfl⟩
      obtain ⟨⟨d, _⟩, assigned, ⟨hfind, rfl⟩, hassigned, rfl⟩ :=
        List.forall₂_cons_left_iff.mp hall
      obtain ⟨hfirst, hothers⟩ := (hfits d assigned).mp hnone
      refine ⟨_, (set_eq_ok_iff hget).mpr ⟨d, hfind, hfirst, rfl⟩, ?_⟩
      rw [putSettings_putSettings, ih]
      exact ⟨assigned, hassigned, hothers, rfl⟩

end Steps

/-- On a profile that is there, a batch succeeds exactly if its steps do, with the same result. -/
theorem WellFormed.update_iff_applyAll (h : c.WellFormed) (hp : c.get? profile = some p)
    {sets : List (String × Raw)} {unsets : List String} :
    (∃ applied, c.update r profile sets unsets = .ok (applied, c')) ↔
      c.applyAll (Operation.steps r profile sets unsets) = .ok c' := by
  have hself : c.applyAll (Operation.steps r profile sets unsets) =
      (c.putSettings profile p.settings).applyAll (Operation.steps r profile sets unsets) := by
    rw [h.putSettings_self hp]
  rw [hself, Operation.steps, applyAll_append_eq_ok_iff]
  constructor
  · rintro ⟨applied, hok⟩
    obtain ⟨q, assigned, taken, kept, hq, hassigned, htaken, hkept, hfits, -, rfl⟩ :=
      update_eq_ok_iff.mp hok
    cases hp.symm.trans hq
    exact ⟨_, (applyAll_unsets_eq_ok_iff hp).mpr ⟨taken, kept, htaken, hkept, rfl⟩,
      (applyAll_sets_eq_ok_iff hp).mpr ⟨assigned, hassigned, hfits, rfl⟩⟩
  · rintro ⟨next, hremoved, hstored⟩
    obtain ⟨taken, kept, htaken, hkept, rfl⟩ := (applyAll_unsets_eq_ok_iff hp).mp hremoved
    obtain ⟨assigned, hassigned, hfits, rfl⟩ := (applyAll_sets_eq_ok_iff hp).mp hstored
    exact ⟨_, update_eq_ok_iff.mpr ⟨p, assigned, taken, kept, hp, hassigned, htaken, hkept, hfits,
      rfl, rfl⟩⟩

/-- A batch that succeeds has found its profile. -/
theorem mem_names_of_update {sets : List (String × Raw)} {unsets : List String}
    {result : SettingsUpdate × Collection} (hok : c.update r profile sets unsets = .ok result) :
    profile ∈ c.names := by
  obtain ⟨p, -, -, -, hp, -⟩ := update_eq_ok_iff.mp hok
  exact contains_iff.mp (Option.isSome_iff_exists.mpr ⟨p, hp⟩)

/-- Where there is a step, the first one that succeeds has found the profile. -/
theorem mem_names_of_applyAll {sets : List (String × Raw)} {unsets : List String}
    (hsome : sets ≠ [] ∨ unsets ≠ [])
    (hok : c.applyAll (Operation.steps r profile sets unsets) = .ok c') : profile ∈ c.names := by
  cases unsets with
  | cons key rest =>
    obtain ⟨next, hnext, -⟩ := applyAll_cons_eq_ok_iff.mp hok
    obtain ⟨_, hupdate, -⟩ := bind_eq_ok hnext
    exact mem_names_of_update hupdate
  | nil =>
    obtain ⟨⟨key, raw⟩, rest, rfl⟩ := List.exists_cons_of_ne_nil (hsome.resolve_right (· rfl))
    obtain ⟨next, hnext, -⟩ := applyAll_cons_eq_ok_iff.mp hok
    obtain ⟨_, hupdate, -⟩ := bind_eq_ok hnext
    exact mem_names_of_update hupdate

/-- However a collection has come about, a batch succeeds exactly if its steps do, one after
another, and both end in the same collection; a batch of nothing also needs its profile to be there.
It tells the settings that it took out and the values that it stored, in the order given and under
the settings' own names. -/
theorem batch_refines_steps {start : Collection} (hstart : start.Initial)
    (history : List Operation) (r : Registry) (profile : String) (sets : List (String × Raw))
    (unsets : List String) :
    let c := start.after history
    (∀ c', (∃ applied, c.update r profile sets unsets = .ok (applied, c')) ↔
      c.applyAll (Operation.steps r profile sets unsets) = .ok c' ∧
        (sets = [] → unsets = [] → profile ∈ c.names)) ∧
    ∀ applied c', c.update r profile sets unsets = .ok (applied, c') →
      List.Forall₂ (fun set stored => ∃ d, r.find? set.1 = some d ∧ stored = (d.name, set.2))
        sets applied.set ∧
      List.Forall₂ (fun key name => ∃ d, r.find? key = some d ∧ name = d.name)
        unsets applied.unset := by
  intro c
  have h : c.WellFormed := hstart.wellFormed.after history
  refine ⟨fun c' => ⟨?_, ?_⟩, ?_⟩
  · rintro ⟨applied, hok⟩
    have hname := mem_names_of_update hok
    obtain ⟨p, hp⟩ := Option.isSome_iff_exists.mp (contains_iff.mpr hname)
    exact ⟨(h.update_iff_applyAll hp).mp ⟨applied, hok⟩, fun _ _ => hname⟩
  · rintro ⟨hok, hempty⟩
    have hname : profile ∈ c.names := by
      by_cases hsome : sets ≠ [] ∨ unsets ≠ []
      · exact mem_names_of_applyAll hsome hok
      · obtain ⟨hsets, hunsets⟩ := not_or.mp hsome
        exact hempty (not_not.mp hsets) (not_not.mp hunsets)
    obtain ⟨p, hp⟩ := Option.isSome_iff_exists.mp (contains_iff.mpr hname)
    exact (h.update_iff_applyAll hp).mpr hok
  · intro applied c' hok
    obtain ⟨p, assigned, taken, kept, -, hassigned, htaken, -, -, rfl, -⟩ :=
      update_eq_ok_iff.mp hok
    refine ⟨List.forall₂_map_right_iff.mpr (hassigned.imp fun set x hset => ?_),
      List.forall₂_map_right_iff.mpr (htaken.imp fun key x hkey => ?_)⟩
    · exact ⟨x.1, hset.1, by rw [hset.2]⟩
    · exact ⟨x.1, hkey.1, rfl⟩

/-- A host that is taken out by its new name, though it was stored under the old one, and then
assigned twice holds the second value, whether in one batch or step by step. -/
theorem batch_refines_steps_of_server :
    ∃ start applied c', ofProfiles [serverProfile] none = .ok start ∧ start.Initial ∧
      (start.after serverHistory).update ⟨"", none, addressCatalog⟩ "dev"
        [("SERVER", .text "a"), ("HOST", .text "b")] ["HOST", "PORT"] = .ok (applied, c') ∧
      (start.after serverHistory).applyAll (Operation.steps ⟨"", none, addressCatalog⟩ "dev"
        [("SERVER", .text "a"), ("HOST", .text "b")] ["HOST", "PORT"]) = .ok c' ∧
      (c'.get? "dev").map (·.settings.entries) =
        some [("COLOR", .text "red"), ("HOST", .text "b")] ∧
      applied = ⟨[("HOST", .text "a"), ("HOST", .text "b")], ["HOST", "PORT"]⟩ := by
  have hstarted : ofProfiles [serverProfile] none = .ok ⟨[serverProfile], none⟩ := rfl
  obtain ⟨hiff, -⟩ := batch_refines_steps (.ofProfiles hstarted) serverHistory
    ⟨"", none, addressCatalog⟩ "dev" [("SERVER", .text "a"), ("HOST", .text "b")] ["HOST", "PORT"]
  have hok : (after ⟨[serverProfile], none⟩ serverHistory).update ⟨"", none, addressCatalog⟩ "dev"
      [("SERVER", .text "a"), ("HOST", .text "b")] ["HOST", "PORT"] =
      .ok (⟨[("HOST", .text "a"), ("HOST", .text "b")], ["HOST", "PORT"]⟩,
        ⟨[serverProfile,
          ⟨⟨"dev", by decide⟩, .ofList [("COLOR", .text "red"), ("HOST", .text "b")]⟩],
          some ⟨"dev", by decide⟩⟩) := by
    decide +kernel
  exact ⟨_, _, _, hstarted, .ofProfiles hstarted, hok, ((hiff _).mp ⟨_, hok⟩).1, by decide +kernel,
    rfl⟩

/-- A batch of nothing for a profile that is missing fails, and the steps that it stands for, of
which there are none, do not. -/
theorem empty_batch_asks_for_profile :
    ¬ ((∃ applied c', withDefault.update ⟨"", none, addressCatalog⟩ "ghost" [] [] =
        .ok (applied, c')) ↔
      ∃ c', withDefault.applyAll (Operation.steps ⟨"", none, addressCatalog⟩ "ghost" [] []) =
        .ok c') := by
  intro hiff
  obtain ⟨_, _, hok⟩ := hiff.mpr ⟨withDefault, rfl⟩
  have herr : withDefault.update ⟨"", none, addressCatalog⟩ "ghost" [] [] =
      .error (.profileNotFound "ghost") := rfl
  rw [herr] at hok
  cases hok

end Collection

end LayeredSettings
