import LayeredSettings.Proofs.NameMap
import LayeredSettings.Proofs.Profile.Operations
import LayeredSettings.Proofs.Registry.Keys

/-!
# What a batch of assignments leaves stored

The values of a batch are stored one after another, each under the own name of its setting and in
place of one value that was stored for it before. So in the end the name of a setting stands for the
last value that the batch assigns to it, by whichever key, or for what it stood for before.
-/

namespace LayeredSettings

variable {r : Registry} {d e : Definition} {settings : NameMap Raw}

/-- The last value that a batch assigns to a setting, by whichever of its keys. -/
def Definition.lastAssigned? (d : Definition) (sets : List (String × Raw)) : Option Raw :=
  (sets.reverse.find? (·.1 ∈ d.keys)).map (·.2)

/-- A later assignment to a setting counts more than the first one of a batch. -/
theorem Definition.lastAssigned?_cons (d : Definition) (key : String) (raw : Raw)
    (rest : List (String × Raw)) :
    d.lastAssigned? ((key, raw) :: rest) =
      (d.lastAssigned? rest).or (if key ∈ d.keys then some raw else none) := by
  unfold lastAssigned?
  rw [List.reverse_cons, List.find?_append, Option.map_or]
  by_cases hkey : key ∈ d.keys <;> simp [hkey]

/-- A key that a setting is stored under is one of the setting's keys. -/
theorem Profile.mem_keys_of_storedKey (h : r.Consistent) (he : e ∈ r.definitions) {stored : String}
    (hstored : Profile.storedKey? r settings e.name = some stored) : stored ∈ e.keys := by
  unfold Profile.storedKey? at hstored
  split at hstored
  · cases hstored
    exact List.mem_cons_self
  · have hfound := List.find?_some hstored
    cases hfind : r.find? stored with
    | none => simp [hfind] at hfound
    | some other =>
      obtain ⟨hother, hkey⟩ := h.find?_eq_some_iff.mp hfind
      have hname : other.name = e.name := by simpa [hfind] using hfound
      rwa [h.eq_of_name_eq hother he hname] at hkey

/-- A value put in place of that of a setting stands under the setting's name, and the names of all
other settings stand for what they stood for. -/
theorem Collection.get?_replace (h : r.Consistent) (hd : d ∈ r.definitions)
    (he : e ∈ r.definitions) (raw : Raw) :
    (replace r settings e raw).get? d.name =
      if d.name = e.name then some raw else settings.get? d.name := by
  unfold replace
  rw [NameMap.get?_insert]
  by_cases hname : d.name = e.name
  · rw [if_pos hname, if_pos hname]
  · rw [if_neg hname, if_neg hname]
    cases hstored : Profile.storedKey? r settings e.name with
    | none => rfl
    | some stored =>
      refine NameMap.get?_erase_of_ne settings ?_
      rintro rfl
      have hkey := Profile.mem_keys_of_storedKey h he hstored
      exact hname (congrArg Definition.name (h.eq_of_shared_key hd he List.mem_cons_self hkey))

section Lookups

variable {α β : Type} {key : α → String} {carried : α → β} {l : List α}

/-- Keys are looked up one by one, and what goes with a key goes with its definition. -/
theorem mapM_lookup_eq_ok_iff {found : List (Definition × β)} :
    l.mapM (fun a => do return (← r.lookup (key a), carried a)) = .ok found ↔
      List.Forall₂ (fun a x => r.find? (key a) = some x.1 ∧ carried a = x.2) l found := by
  have hone (a : α) (x : Definition × β) :
      (do return (← r.lookup (key a), carried a)) = (Except.ok x : Except SettingsError _) ↔
        r.find? (key a) = some x.1 ∧ carried a = x.2 := by
    rw [← Registry.lookup_eq_ok_iff]
    cases r.lookup (key a) with
    | error e => simp [bind, Except.bind]
    | ok d => simp [bind, Except.bind, pure, Except.pure, Prod.ext_iff]
  rw [mapM_eq_ok_iff]
  simp only [hone]

/-- Looking keys up fails exactly with the first one that belongs to no setting. -/
theorem mapM_lookup_eq_error_iff {e : SettingsError} :
    l.mapM (fun a => do return (← r.lookup (key a), carried a)) = .error e ↔
      ∃ k, (l.map key).find? (!r.contains ·) = some k ∧ e = .unknownSetting k := by
  induction l with
  | nil => simp [pure, Except.pure]
  | cons a rest ih =>
    rw [List.mapM_cons, List.map_cons]
    cases hfind : r.find? (key a) with
    | none =>
      rw [List.find?_cons_of_pos (by simp [Registry.contains, hfind])]
      simp [Registry.lookup, hfind, bind, Except.bind, eq_comm]
    | some d =>
      have hlookup : r.lookup (key a) = .ok d := Registry.lookup_eq_ok_iff.mpr hfind
      rw [List.find?_cons_of_neg (by simp [Registry.contains, hfind]), ← ih, hlookup]
      cases rest.mapM fun a => do return (← r.lookup (key a), carried a) <;>
        simp [bind, Except.bind, pure, Except.pure]

/-- Keys can all be looked up exactly if all of them are known. -/
theorem exists_lookups_iff :
    (∃ found : List (Definition × β),
      List.Forall₂ (fun a x => r.find? (key a) = some x.1 ∧ carried a = x.2) l found) ↔
    ∀ k ∈ l.map key, r.contains k = true := by
  simp only [← mapM_lookup_eq_ok_iff]
  cases hfound : l.mapM (fun a => do return (← r.lookup (key a), carried a)) with
  | ok found =>
    refine ⟨fun _ => ?_, fun _ => ⟨found, rfl⟩⟩
    intro k hk
    by_contra hunknown
    obtain ⟨first, hfirst⟩ := Option.isSome_iff_exists.mp
      (List.find?_isSome (p := (!r.contains ·)).mpr ⟨k, hk, by simpa using hunknown⟩)
    rw [mapM_lookup_eq_error_iff.mpr ⟨first, hfirst, rfl⟩] at hfound
    cases hfound
  | error e =>
    obtain ⟨k, hfirst, -⟩ := mapM_lookup_eq_error_iff.mp hfound
    have hunknown := List.find?_some hfirst
    constructor
    · rintro ⟨_, ⟨⟩⟩
    · intro hknown
      simp [hknown k (List.mem_of_find?_eq_some hfirst)] at hunknown

end Lookups

/-- The values of a batch with the settings that they are for. -/
abbrev Registry.Finds (r : Registry) (sets : List (String × Raw))
    (found : List (Definition × Raw)) : Prop :=
  List.Forall₂ (fun set x => r.find? set.1 = some x.1 ∧ set.2 = x.2) sets found

/-- The keys that a batch takes out with the settings that they belong to. -/
abbrev Registry.FindsKeys (r : Registry) (unsets : List String)
    (found : List (Definition × String)) : Prop :=
  List.Forall₂ (fun key x => r.find? key = some x.1 ∧ key = x.2) unsets found

section Found

variable {sets : List (String × Raw)} {found : List (Definition × Raw)}

/-- After a batch the name of a setting stands for the last value assigned to the setting, else for
what it stood for before. -/
theorem Collection.get?_foldl_replace (h : r.Consistent) (hd : d ∈ r.definitions)
    (hfound : r.Finds sets found) :
    (found.foldl (fun settings (d, raw) => replace r settings d raw) settings).get? d.name =
      (d.lastAssigned? sets).or (settings.get? d.name) := by
  induction hfound generalizing settings with
  | nil => rfl
  | @cons set x rest tail hfirst _ ih =>
    obtain ⟨key, raw⟩ := set
    obtain ⟨e, raw⟩ := x
    obtain ⟨hfind, rfl⟩ := hfirst
    obtain ⟨he, hkey⟩ := h.find?_eq_some_iff.mp hfind
    have hiff : d.name = e.name ↔ key ∈ d.keys := by
      constructor
      · intro hname
        rwa [h.eq_of_name_eq hd he hname]
      · intro hkeyd
        rw [h.eq_of_shared_key hd he hkeyd hkey]
    rw [List.foldl_cons, ih, get?_replace h hd he, d.lastAssigned?_cons, Option.or_assoc]
    by_cases hkeyd : key ∈ d.keys
    · rw [if_pos (hiff.mpr hkeyd), if_pos hkeyd]
      rfl
    · rw [if_neg (hiff.not.mpr hkeyd), if_neg hkeyd]
      rfl

/-- The last value that a batch assigns to a setting is among those looked up. -/
private theorem mem_found_of_lastAssigned (h : r.Consistent) (hd : d ∈ r.definitions)
    (hfound : r.Finds sets found) {raw : Raw} (hlast : d.lastAssigned? sets = some raw) :
    (d, raw) ∈ found := by
  induction hfound with
  | nil => cases hlast
  | @cons set x rest tail hfirst _ ih =>
    obtain ⟨key, first⟩ := set
    obtain ⟨e, first⟩ := x
    obtain ⟨hfind, rfl⟩ := hfirst
    rw [d.lastAssigned?_cons] at hlast
    rcases Option.or_eq_some_iff.mp hlast with hrest | ⟨-, hfirst⟩
    · exact List.mem_cons_of_mem _ (ih hrest)
    · split at hfirst
      · next hkey =>
        cases hfirst
        cases (h.find?_eq_some_iff.mpr ⟨hd, hkey⟩).symm.trans hfind
        exact List.mem_cons_self
      · cases hfirst

end Found

/-- The profile of a name has the settings that were put there. -/
theorem Collection.get?_putSettings {c : Collection} {name : String} {p : Profile}
    (hp : c.get? name = some p) :
    (c.putSettings name settings).get? name = some { p with settings } := by
  have hsame : (fun q : Profile => decide (q.name.text = name)) ∘
      (fun q => if q.name.text = name then { q with settings } else q) =
        fun q => decide (q.name.text = name) := by
    funext q
    dsimp only [Function.comp]
    split <;> rfl
  obtain ⟨-, hname⟩ := mem_of_get? hp
  unfold get? at hp
  unfold get? putSettings
  rw [List.find?_map, hsame, hp, Option.map_some, if_pos hname]

/-- A batch whose profile is there and whose keys are known goes on to take its settings out and to
store its values. -/
theorem Collection.update_of_known {c : Collection} {profile : String} {p : Profile}
    {sets : List (String × Raw)} {unsets : List String} {assigned : List (Definition × Raw)}
    {taken : List (Definition × String)} (hp : c.get? profile = some p)
    (hassigned : r.Finds sets assigned) (htaken : r.FindsKeys unsets taken) :
    c.update r profile sets unsets = do
      let kept ← removeAll r profile p.settings taken
      SettingsError.ofFailures (batchFailures r assigned)
      return (⟨assigned.map fun (d, raw) => (d.name, raw), taken.map fun (d, _) => d.name⟩,
        c.putSettings profile
          (assigned.foldl (fun settings (d, raw) => replace r settings d raw) kept)) := by
  have hsets := mapM_lookup_eq_ok_iff.mpr hassigned
  have hunsets := mapM_lookup_eq_ok_iff.mpr htaken
  exact (bind_of_ok (require_eq_ok_iff.mpr hp)).trans
    ((bind_of_ok hsets).trans (bind_of_ok hunsets))

/-- A batch succeeds exactly if its profile is there, all its keys are known, each setting that it
takes out is stored and each value that it assigns fits; and then it does the one and the other. -/
theorem Collection.update_eq_ok_iff {c c' : Collection} {profile : String}
    {sets : List (String × Raw)} {unsets : List String} {applied : SettingsUpdate} :
    c.update r profile sets unsets = .ok (applied, c') ↔
      ∃ p assigned taken kept, c.get? profile = some p ∧ r.Finds sets assigned ∧
        r.FindsKeys unsets taken ∧ removeAll r profile p.settings taken = .ok kept ∧
        batchFailures r assigned = [] ∧
        applied = ⟨assigned.map fun (d, raw) => (d.name, raw), taken.map fun (d, _) => d.name⟩ ∧
        c' = c.putSettings profile
          (assigned.foldl (fun settings (d, raw) => replace r settings d raw) kept) := by
  constructor
  · intro hok
    obtain ⟨p, hp, hok⟩ := bind_eq_ok hok
    obtain ⟨assigned, hassigned, hok⟩ := bind_eq_ok hok
    obtain ⟨taken, htaken, hok⟩ := bind_eq_ok hok
    obtain ⟨kept, hkept, hok⟩ := bind_eq_ok hok
    obtain ⟨_, hfits, hok⟩ := bind_eq_ok hok
    cases hok
    exact ⟨p, assigned, taken, kept, require_eq_ok_iff.mp hp, mapM_lookup_eq_ok_iff.mp hassigned,
      mapM_lookup_eq_ok_iff.mp htaken, hkept, SettingsError.ofFailures_eq_ok_iff.mp hfits, rfl, rfl⟩
  · rintro ⟨p, assigned, taken, kept, hp, hassigned, htaken, hkept, hfits, rfl, rfl⟩
    have hvalues : SettingsError.ofFailures (batchFailures r assigned) = .ok () :=
      SettingsError.ofFailures_eq_ok_iff.mpr hfits
    rw [update_of_known hp hassigned htaken]
    exact (bind_of_ok hkept).trans (bind_of_ok hvalues)

/-- A stored setting can be removed from a profile, whatever the stored values are. -/
theorem Collection.update_of_storedKey {c : Collection} {p : Profile}
    {profile key stored : String} (hp : c.get? profile = some p) (hkey : r.find? key = some d)
    (hstored : Profile.storedKey? r p.settings d.name = some stored) :
    c.update r profile [] [key] =
      .ok (⟨[], [d.name]⟩, c.putSettings profile (p.settings.erase stored)) := by
  have hremoved : removeAll r profile p.settings [(d, key)] = .ok (p.settings.erase stored) := by
    simp only [removeAll, hstored]
  exact update_eq_ok_iff.mpr
    ⟨p, [], [(d, key)], _, hp, .nil, .cons ⟨hkey, rfl⟩ .nil, hremoved, rfl, rfl, rfl⟩

/-- An update that succeeds leaves the pointer where it is, stores the last value assigned to each
setting under the setting's own name, and tells of it. -/
theorem Collection.update_assigns (h : r.Consistent) {c c' : Collection} {profile : String}
    {sets : List (String × Raw)} {unsets : List String} {applied : SettingsUpdate}
    (hok : c.update r profile sets unsets = .ok (applied, c')) :
    c'.active = c.active ∧ ∃ p, c'.get? profile = some p ∧
      ∀ d ∈ r.definitions, ∀ raw, d.lastAssigned? sets = some raw →
        p.settings.get? d.name = some raw ∧ (d.name, raw) ∈ applied.set := by
  obtain ⟨p, found, _, kept, hp, hfound, -, -, -, rfl, rfl⟩ := update_eq_ok_iff.mp hok
  refine ⟨rfl, _, get?_putSettings hp, fun d hd raw hlast => ⟨?_, ?_⟩⟩
  · rw [get?_foldl_replace h hd hfound, hlast]
    rfl
  · exact List.mem_map_of_mem (mem_found_of_lastAssigned h hd hfound hlast)

end LayeredSettings
