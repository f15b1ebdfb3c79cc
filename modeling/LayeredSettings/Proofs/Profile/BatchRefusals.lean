import LayeredSettings.Proofs.Profile.BatchEffect

/-!
# What a batch is refused for

A batch is refused for the first thing that is wrong with it: its profile is missing, a key is
unknown, a setting that it takes out is not stored at that point, or values do not fit, and then all
of them are told. Each of these is said below in terms of the batch and the profile alone, and
exactly one of them is the error of a batch that fails.
-/

namespace LayeredSettings

variable {r : Registry} {d : Definition} {settings kept : NameMap Raw} {profile : String}

/-- The key that goes when a setting is taken out: its name, or if that is not stored, the
deprecated name that is the first in the order of bytes of those stored. -/
inductive Definition.StoredUnder (d : Definition) (settings : NameMap Raw) : String → Prop
  | named (hname : settings.contains d.name = true) : StoredUnder d settings d.name
  | aliased {old : String} (hname : settings.contains d.name = false) (hmem : old ∈ d.aliases)
      (hold : settings.contains old = true)
      (hfirst : ∀ other ∈ d.aliases, settings.contains other = true → other ≠ old →
        Text.bytes old < Text.bytes other) : StoredUnder d settings old

/-- What is left when the settings of some keys are taken out in turn. -/
inductive Registry.TakesOut (r : Registry) : List String → NameMap Raw → NameMap Raw → Prop
  | nil {settings : NameMap Raw} : TakesOut r [] settings settings
  | cons {d : Definition} {key stored : String} {rest : List String}
      {settings kept : NameMap Raw} (hd : d ∈ r.definitions) (hkey : key ∈ d.keys)
      (hstored : d.StoredUnder settings stored)
      (hrest : TakesOut r rest (settings.erase stored) kept) :
      TakesOut r (key :: rest) settings kept

/-- The values of a batch that their settings refuse, in the order of the batch, each with the name
of its setting and the reason. -/
inductive Registry.Refuses (r : Registry) : List (String × Raw) → List Failure → Prop
  | nil : Refuses r [] []
  | fits {d : Definition} {key : String} {raw : Raw} {value : Value}
      {rest : List (String × Raw)} {failures : List Failure} (hd : d ∈ r.definitions)
      (hkey : key ∈ d.keys) (hcast : d.cast r.home raw = .ok value)
      (hrest : Refuses r rest failures) : Refuses r ((key, raw) :: rest) failures
  | refused {d : Definition} {key : String} {raw : Raw} {reason : Reason}
      {rest : List (String × Raw)} {failures : List Failure} (hd : d ∈ r.definitions)
      (hkey : key ∈ d.keys) (hcast : d.cast r.home raw = .error reason)
      (hrest : Refuses r rest failures) :
      Refuses r ((key, raw) :: rest) (⟨d.name, reason⟩ :: failures)

/-- The first thing that is wrong with a batch, as the error that it is refused with. -/
inductive Collection.RefusesBatch (c : Collection) (r : Registry) (profile : String)
    (sets : List (String × Raw)) (unsets : List String) : SettingsError → Prop
  /-- There is no profile of the name. -/
  | profileNotFound (hmissing : profile ∉ c.names) :
      RefusesBatch c r profile sets unsets (.profileNotFound profile)
  /-- A key belongs to no setting; it is the first such key, the assigned ones before those that are
  taken out. -/
  | unknownSetting {before after : List String} {key : String} (hprofile : profile ∈ c.names)
      (hsplit : sets.map (·.1) ++ unsets = before ++ key :: after)
      (hbefore : ∀ other ∈ before, r.contains other = true) (hunknown : r.contains key = false) :
      RefusesBatch c r profile sets unsets (.unknownSetting key)
  /-- A setting is taken out of which no key is left once those before it were taken out. -/
  | notSet {p : Profile} {before after : List String} {key : String} {d : Definition}
      {kept : NameMap Raw} (hp : c.get? profile = some p)
      (hknown : ∀ other ∈ sets.map (·.1) ++ unsets, r.contains other = true)
      (hsplit : unsets = before ++ key :: after)
      (hbefore : r.TakesOut before p.settings kept) (hd : d ∈ r.definitions) (hkey : key ∈ d.keys)
      (hnone : ∀ own ∈ d.keys, kept.contains own = false) :
      RefusesBatch c r profile sets unsets (.notSet key profile)
  /-- Values do not fit; all of them are told. -/
  | validation {p : Profile} {kept : NameMap Raw} {failures : List Failure}
      (hp : c.get? profile = some p) (hunsets : r.TakesOut unsets p.settings kept)
      (hfailures : r.Refuses sets failures) (hsome : failures ≠ []) :
      RefusesBatch c r profile sets unsets (.validation failures)

namespace Registry

/-- Keys of settings are known. -/
theorem Consistent.contains_of_mem_keys (h : r.Consistent) (hd : d ∈ r.definitions) {key : String}
    (hkey : key ∈ d.keys) : r.contains key = true :=
  Option.isSome_iff_exists.mpr ⟨d, h.find?_eq_some_iff.mpr ⟨hd, hkey⟩⟩

/-- Keys whose settings are taken out are known. -/
theorem TakesOut.known (h : r.Consistent) {unsets : List String}
    (htakes : r.TakesOut unsets settings kept) : ∀ key ∈ unsets, r.contains key = true := by
  induction htakes with
  | nil => simp
  | cons hd hkey _ _ ih => exact List.forall_mem_cons.mpr ⟨h.contains_of_mem_keys hd hkey, ih⟩

/-- Keys whose values fit or are refused are known. -/
theorem Refuses.known (h : r.Consistent) {sets : List (String × Raw)} {failures : List Failure}
    (hrefuses : r.Refuses sets failures) : ∀ key ∈ sets.map (·.1), r.contains key = true := by
  induction hrefuses with
  | nil => simp
  | fits hd hkey _ _ ih => exact List.forall_mem_cons.mpr ⟨h.contains_of_mem_keys hd hkey, ih⟩
  | refused hd hkey _ _ ih => exact List.forall_mem_cons.mpr ⟨h.contains_of_mem_keys hd hkey, ih⟩

end Registry

namespace Definition

/-- A setting is stored under one key at most at a time, as far as taking it out goes. -/
theorem StoredUnder.unique {stored other : String} (h : d.StoredUnder settings stored)
    (hother : d.StoredUnder settings other) : stored = other := by
  cases h with
  | named hname =>
    cases hother with
    | named _ => rfl
    | aliased hnot => simp [hname] at hnot
  | @aliased old hnot hmem hold hfirst =>
    cases hother with
    | named hname => simp [hname] at hnot
    | @aliased old' _ hmem' hold' hfirst' =>
      by_contra hne
      exact List.lt_asymm (hfirst _ hmem' hold' (Ne.symm hne)) (hfirst' _ hmem hold hne)

end Definition

namespace Profile

/-- The key that is found for a setting is the one that goes when the setting is taken out. -/
theorem storedUnder_of_storedKey? (h : r.Consistent) (hd : d ∈ r.definitions) {stored : String}
    (hstored : storedKey? r settings d.name = some stored) : d.StoredUnder settings stored := by
  have hkey := mem_keys_of_storedKey h hd hstored
  unfold storedKey? at hstored
  split at hstored
  · next hname =>
    cases hstored
    exact .named hname
  · next hname =>
    obtain ⟨-, before, after, hsplit, hbefore⟩ := List.find?_eq_some_iff_append.mp hstored
    have hsorted : settings.keys.Pairwise (· < ·) := List.pairwise_map.mpr settings.sorted
    have hmem : stored ∈ settings.keys := by rw [hsplit]; simp
    have hcontains := settings.contains_iff_mem_keys.mpr hmem
    have halias : stored ∈ d.aliases := by
      refine (List.mem_cons.mp hkey).resolve_left ?_
      rintro rfl
      exact hname hcontains
    refine .aliased (Bool.eq_false_of_not_eq_true hname) halias hcontains ?_
    intro other hother hcontained hne
    have hfind : r.find? other = some d :=
      h.find?_eq_some_iff.mpr ⟨hd, List.mem_cons_of_mem _ hother⟩
    -- The other name is not among those before, as these belong to other settings.
    have hlater : other ∈ after := by
      have hplace := settings.contains_iff_mem_keys.mp hcontained
      rw [hsplit] at hplace
      rcases List.mem_append.mp hplace with hearly | hplace
      · simpa [hfind] using hbefore other hearly
      · exact (List.mem_cons.mp hplace).resolve_left hne
    rw [hsplit] at hsorted
    exact Text.bytes_lt_of_lt
      ((List.pairwise_cons.mp (List.pairwise_append.mp hsorted).2.1).1 other hlater)

/-- A key is found for a setting exactly if the setting is stored under it. -/
theorem storedKey?_eq_some_iff (h : r.Consistent) (hd : d ∈ r.definitions) {stored : String} :
    storedKey? r settings d.name = some stored ↔ d.StoredUnder settings stored := by
  constructor
  · exact storedUnder_of_storedKey? h hd
  · intro hunder
    cases hfound : storedKey? r settings d.name with
    | some found => rw [(storedUnder_of_storedKey? h hd hfound).unique hunder]
    | none =>
      have hnil := Definition.storedKeys_eq_nil_iff.mp (storedKeys_eq_nil_of_storedKey? h hd hfound)
      cases hunder with
      | named hname => simp [NameMap.contains, hnil _ List.mem_cons_self] at hname
      | aliased _ hmem hold =>
        simp [NameMap.contains, hnil _ (List.mem_cons_of_mem _ hmem)] at hold

/-- No key is found for a setting exactly if none of its keys is stored. -/
theorem storedKey?_eq_none_iff (h : r.Consistent) (hd : d ∈ r.definitions) :
    storedKey? r settings d.name = none ↔ ∀ key ∈ d.keys, settings.contains key = false := by
  constructor
  · intro hnone key hkey
    have hnil := Definition.storedKeys_eq_nil_iff.mp (storedKeys_eq_nil_of_storedKey? h hd hnone)
    simp [NameMap.contains, hnil key hkey]
  · intro hnone
    refine Option.eq_none_iff_forall_ne_some.mpr fun stored hstored => ?_
    obtain ⟨hkey, hcontains⟩ :=
      Definition.mem_storedKeys_iff.mp (mem_storedKeys_of_storedKey? h hd hstored).1
    simp [hnone stored hkey] at hcontains

end Profile

namespace Collection

section Removed

variable {unsets : List String} {taken : List (Definition × String)} (h : r.Consistent)
  (htaken : r.FindsKeys unsets taken)
include h htaken

/-- Settings are taken out one after another, each under the key that it is stored under then. -/
theorem removeAll_eq_ok_iff :
    removeAll r profile settings taken = .ok kept ↔ r.TakesOut unsets settings kept := by
  induction htaken generalizing settings with
  | nil =>
    constructor
    · rintro ⟨⟩
      exact .nil
    · rintro ⟨⟩
      rfl
  | @cons key x rest tail hfirst _ ih =>
    obtain ⟨d, _⟩ := x
    obtain ⟨hfind, rfl⟩ := hfirst
    obtain ⟨hd, hkey⟩ := h.find?_eq_some_iff.mp hfind
    rw [removeAll]
    constructor
    · intro hok
      cases hstored : Profile.storedKey? r settings d.name with
      | none => simp [hstored] at hok
      | some stored =>
        rw [hstored] at hok
        exact .cons hd hkey ((Profile.storedKey?_eq_some_iff h hd).mp hstored) (ih.mp hok)
    · intro htakes
      cases htakes with
      | @cons e _ stored _ _ _ he hkeye hunder hrest =>
        obtain rfl := h.eq_of_shared_key he hd hkeye hkey
        rw [(Profile.storedKey?_eq_some_iff h hd).mpr hunder]
        exact ih.mpr hrest

/-- Taking settings out fails exactly at the first of which no key is left then. -/
theorem removeAll_eq_error_iff {e : SettingsError} :
    removeAll r profile settings taken = .error e ↔ ∃ before key after d kept,
      unsets = before ++ key :: after ∧ r.TakesOut before settings kept ∧ d ∈ r.definitions ∧
      key ∈ d.keys ∧ (∀ own ∈ d.keys, kept.contains own = false) ∧ e = .notSet key profile := by
  induction htaken generalizing settings with
  | nil => simp [removeAll]
  | @cons key x rest tail hfirst _ ih =>
    obtain ⟨d, _⟩ := x
    obtain ⟨hfind, rfl⟩ := hfirst
    obtain ⟨hd, hkey⟩ := h.find?_eq_some_iff.mp hfind
    rw [removeAll]
    constructor
    · intro herr
      cases hstored : Profile.storedKey? r settings d.name with
      | none =>
        rw [hstored] at herr
        cases herr
        exact ⟨[], key, rest, d, settings, rfl, .nil, hd, hkey,
          (Profile.storedKey?_eq_none_iff h hd).mp hstored, rfl⟩
      | some stored =>
        rw [hstored] at herr
        obtain ⟨before, last, after, e, kept, rfl, hbefore, he, hlast, hnone, rfl⟩ := ih.mp herr
        have hunder := (Profile.storedKey?_eq_some_iff h hd).mp hstored
        exact ⟨key :: before, last, after, e, kept, rfl, .cons hd hkey hunder hbefore, he, hlast,
          hnone, rfl⟩
    · rintro ⟨before, last, after, e, kept, hsplit, hbefore, he, hlast, hnone, rfl⟩
      cases hbefore with
      | nil =>
        obtain ⟨rfl, -⟩ := List.cons.inj hsplit
        obtain rfl := h.eq_of_shared_key he hd hlast hkey
        rw [(Profile.storedKey?_eq_none_iff h hd).mpr hnone]
      | @cons e' first stored earlier _ _ he' hfirst hunder hearlier =>
        obtain ⟨rfl, hrest⟩ := List.cons.inj hsplit
        obtain rfl := h.eq_of_shared_key he' hd hfirst hkey
        rw [(Profile.storedKey?_eq_some_iff h hd).mpr hunder]
        exact ih.mpr ⟨earlier, last, after, e, kept, hrest, hearlier, he, hlast, hnone, rfl⟩

end Removed

/-- A value that fits is no failure. -/
private theorem batchFailures_cons_of_ok {raw : Raw} {value : Value}
    {rest : List (Definition × Raw)} (hcast : d.cast r.home raw = .ok value) :
    batchFailures r ((d, raw) :: rest) = batchFailures r rest :=
  List.filterMap_cons_none (by simp only [hcast])

/-- A value that does not fit is the first failure. -/
private theorem batchFailures_cons_of_error {raw : Raw} {reason : Reason}
    {rest : List (Definition × Raw)} (hcast : d.cast r.home raw = .error reason) :
    batchFailures r ((d, raw) :: rest) = ⟨d.name, reason⟩ :: batchFailures r rest :=
  List.filterMap_cons_some (by simp only [hcast])

/-- The failures of a batch are those of its values that their settings refuse. -/
theorem refuses_iff_batchFailures (h : r.Consistent) {sets : List (String × Raw)}
    {assigned : List (Definition × Raw)} (hassigned : r.Finds sets assigned)
    {failures : List Failure} : r.Refuses sets failures ↔ failures = batchFailures r assigned := by
  induction hassigned generalizing failures with
  | nil =>
    constructor
    · rintro ⟨⟩
      rfl
    · rintro rfl
      exact .nil
  | @cons set x rest tail hfirst _ ih =>
    obtain ⟨key, raw⟩ := set
    obtain ⟨d, _⟩ := x
    obtain ⟨hfind, rfl⟩ := hfirst
    obtain ⟨hd, hkey⟩ := h.find?_eq_some_iff.mp hfind
    constructor
    · intro hrefuses
      cases hrefuses with
      | fits he hkeye hcast hrest =>
        obtain rfl := h.eq_of_shared_key he hd hkeye hkey
        rw [batchFailures_cons_of_ok hcast]
        exact ih.mp hrest
      | refused he hkeye hcast hrest =>
        obtain rfl := h.eq_of_shared_key he hd hkeye hkey
        rw [batchFailures_cons_of_error hcast, ih.mp hrest]
    · rintro rfl
      cases hcast : d.cast r.home raw with
      | ok value =>
        rw [batchFailures_cons_of_ok hcast]
        exact .fits hd hkey hcast (ih.mpr rfl)
      | error reason =>
        rw [batchFailures_cons_of_error hcast]
        exact .refused hd hkey hcast (ih.mpr rfl)

section Stages

variable {c : Collection} {p : Profile} {sets : List (String × Raw)} {unsets : List String}
  {assigned : List (Definition × Raw)} {taken : List (Definition × String)} {e : SettingsError}

/-- If all keys of a batch are known, each of them is found. -/
private theorem exists_found_of_known
    (hknown : ∀ key ∈ sets.map (·.1) ++ unsets, r.contains key = true) :
    ∃ (assigned : List (Definition × Raw)) (taken : List (Definition × String)),
      r.Finds sets assigned ∧ r.FindsKeys unsets taken := by
  have hsets : ∃ assigned, r.Finds sets assigned :=
    exists_lookups_iff.mpr fun key hkey => hknown key (List.mem_append_left _ hkey)
  have hunsets : ∃ taken, r.FindsKeys unsets taken :=
    exists_lookups_iff.mpr fun key hkey =>
      hknown key (List.mem_append_right _ (by simpa using hkey))
  obtain ⟨assigned, hassigned⟩ := hsets
  obtain ⟨taken, htaken⟩ := hunsets
  exact ⟨assigned, taken, hassigned, htaken⟩

/-- The first unknown key of a batch, the assigned ones before those taken out. -/
private theorem refusesBatch_of_unknown (hp : c.get? profile = some p) {key : String}
    (hfirst : (sets.map (·.1) ++ unsets).find? (!r.contains ·) = some key) :
    c.RefusesBatch r profile sets unsets (.unknownSetting key) := by
  obtain ⟨hunknown, before, after, hsplit, hbefore⟩ := List.find?_eq_some_iff_append.mp hfirst
  exact .unknownSetting (contains_iff.mp (Option.isSome_iff_exists.mpr ⟨p, hp⟩)) hsplit
    (by simpa using hbefore) (by simpa using hunknown)

/-- A batch that fails is refused for the first thing that is wrong with it. -/
theorem refusesBatch_of_update_error (h : r.Consistent)
    (herr : c.update r profile sets unsets = .error e) :
    c.RefusesBatch r profile sets unsets e := by
  rcases bind_eq_error herr with hprofile | ⟨p, hprofile, herr⟩
  · obtain ⟨hmissing, rfl⟩ := require_eq_error_iff.mp hprofile
    exact .profileNotFound hmissing
  have hp := require_eq_ok_iff.mp hprofile
  rcases bind_eq_error herr with hsets | ⟨assigned, hsets, herr⟩
  · obtain ⟨key, hfirst, rfl⟩ := mapM_lookup_eq_error_iff.mp hsets
    refine refusesBatch_of_unknown hp ?_
    rw [List.find?_append, hfirst]
    rfl
  have hassigned := mapM_lookup_eq_ok_iff.mp hsets
  have hsetsKnown := exists_lookups_iff.mp ⟨assigned, hassigned⟩
  rcases bind_eq_error herr with hunsets | ⟨taken, hunsets, herr⟩
  · obtain ⟨key, hfirst, rfl⟩ := mapM_lookup_eq_error_iff.mp hunsets
    refine refusesBatch_of_unknown hp ?_
    rw [List.find?_append, List.find?_eq_none.mpr (by simpa using hsetsKnown), Option.none_or]
    simpa using hfirst
  have htaken := mapM_lookup_eq_ok_iff.mp hunsets
  have hunsetsKnown := exists_lookups_iff.mp ⟨taken, htaken⟩
  rcases bind_eq_error herr with hremoved | ⟨kept, hremoved, herr⟩
  · obtain ⟨before, key, after, d, kept, hsplit, hbefore, hd, hkey, hnone, rfl⟩ :=
      (removeAll_eq_error_iff h htaken).mp hremoved
    refine .notSet hp (fun other hother => ?_) hsplit hbefore hd hkey hnone
    rcases List.mem_append.mp hother with hother | hother
    · exact hsetsKnown other hother
    · exact hunsetsKnown other (by simpa using hother)
  have hkept := (removeAll_eq_ok_iff h htaken).mp hremoved
  rcases bind_eq_error herr with hvalues | ⟨_, -, hpure⟩
  · obtain ⟨hsome, rfl⟩ := SettingsError.ofFailures_eq_error_iff.mp hvalues
    exact .validation hp hkept ((refuses_iff_batchFailures h hassigned).mpr rfl) hsome
  · cases hpure

/-- What is wrong with a batch first is what it fails with. -/
theorem update_error_of_refusesBatch (h : r.Consistent)
    (hrefused : c.RefusesBatch r profile sets unsets e) :
    c.update r profile sets unsets = .error e := by
  cases hrefused with
  | profileNotFound hmissing =>
    exact bind_of_error (require_eq_error_iff.mpr ⟨hmissing, rfl⟩)
  | @unknownSetting before after key hprofile hsplit hbefore hunknown =>
    obtain ⟨p, hp⟩ := Option.isSome_iff_exists.mp (contains_iff.mpr hprofile)
    have hfirst : (sets.map (·.1) ++ unsets).find? (!r.contains ·) = some key :=
      List.find?_eq_some_iff_append.mpr
        ⟨by simp [hunknown], before, after, hsplit, by simpa using hbefore⟩
    rw [List.find?_append] at hfirst
    refine (bind_of_ok (require_eq_ok_iff.mpr hp)).trans ?_
    rcases Option.or_eq_some_iff.mp hfirst with hfirst | ⟨hnone, hfirst⟩
    · exact bind_of_error (mapM_lookup_eq_error_iff.mpr ⟨key, hfirst, rfl⟩)
    · have hknown : ∃ assigned, r.Finds sets assigned :=
        exists_lookups_iff.mpr (by simpa using hnone)
      obtain ⟨assigned, hassigned⟩ := hknown
      have hsets := mapM_lookup_eq_ok_iff.mpr hassigned
      refine (bind_of_ok hsets).trans (bind_of_error ?_)
      exact mapM_lookup_eq_error_iff.mpr ⟨key, by simpa using hfirst, rfl⟩
  | notSet hp hknown hsplit hbefore hd hkey hnone =>
    obtain ⟨assigned, taken, hassigned, htaken⟩ := exists_found_of_known hknown
    rw [update_of_known hp hassigned htaken, (removeAll_eq_error_iff h htaken).mpr
      ⟨_, _, _, _, _, hsplit, hbefore, hd, hkey, hnone, rfl⟩]
    rfl
  | @validation p kept failures hp hunsets hfailures hsome =>
    obtain ⟨assigned, taken, hassigned, htaken⟩ := exists_found_of_known fun key hmem =>
      (List.mem_append.mp hmem).elim (hfailures.known h key) (hunsets.known h key)
    have hvalues : SettingsError.ofFailures (batchFailures r assigned) =
        .error (.validation failures) := by
      rw [← (refuses_iff_batchFailures h hassigned).mp hfailures]
      exact SettingsError.ofFailures_eq_error_iff.mpr ⟨hsome, rfl⟩
    rw [update_of_known hp hassigned htaken, (removeAll_eq_ok_iff h htaken).mpr hunsets]
    simp only [bind, Except.bind, hvalues]

/-- The error of a batch is the first thing that is wrong with it. -/
theorem update_eq_error_iff (h : r.Consistent) :
    c.update r profile sets unsets = .error e ↔ c.RefusesBatch r profile sets unsets e :=
  ⟨refusesBatch_of_update_error h, update_error_of_refusesBatch h⟩

end Stages

/-- However a collection has come about, the error of a batch is the first thing that is wrong with
it, a batch of which nothing is wrong succeeds, and one that is refused in place leaves all profiles
and the pointer as they were. -/
theorem batch_refused_at_first_stage {envPrefix : String} {home : Home}
    {definitions : List Definition} (hbuild : Registry.build envPrefix home definitions = .ok r)
    {start : Collection} (hstart : start.Initial) (history : List Operation) (profile : String)
    (sets : List (String × Raw)) (unsets : List String) :
    let c := start.after history
    (∀ e, c.update r profile sets unsets = .error e ↔ c.RefusesBatch r profile sets unsets e) ∧
    ((∃ result, c.update r profile sets unsets = .ok result) ↔
      ∀ e, ¬ c.RefusesBatch r profile sets unsets e) ∧
    ∀ e, c.RefusesBatch r profile sets unsets e →
      (Operation.update r profile sets unsets).perform c = (.error e, c) := by
  intro c
  obtain ⟨-, h⟩ := Registry.consistent_of_build hbuild
  refine ⟨fun e => update_eq_error_iff h, ⟨?_, ?_⟩, ?_⟩
  · rintro ⟨result, hok⟩ e hrefused
    rw [(update_eq_error_iff h).mpr hrefused] at hok
    cases hok
  · intro hsound
    cases hupdate : c.update r profile sets unsets with
    | ok result => exact ⟨result, rfl⟩
    | error e => exact (hsound e ((update_eq_error_iff h).mp hupdate)).elim
  · intro e hrefused
    rw [Operation.perform_eq (hstart.wellFormed.after history), Operation.apply,
      (update_eq_error_iff h).mpr hrefused]
    rfl

/-- A host is stored once, so it cannot be taken out by both its names, whatever is wrong with the
values; without the second removal both values for the port are told. -/
theorem batch_refused_at_first_stage_of_server :
    ∃ r start, Registry.build "" none addressCatalog = .ok r ∧
      ofProfiles [serverProfile] none = .ok start ∧ start.Initial ∧
      (start.after serverHistory).RefusesBatch r "dev"
        [("PORT", .integer 0), ("HOST", .text "a"), ("PORT", .text "x")] ["HOST", "SERVER"]
        (.notSet "SERVER" "dev") ∧
      (Operation.update r "dev" [("PORT", .integer 0), ("HOST", .text "a"), ("PORT", .text "x")]
        ["HOST", "SERVER"]).perform (start.after serverHistory) =
        (.error (.notSet "SERVER" "dev"), start.after serverHistory) ∧
      (start.after serverHistory).RefusesBatch r "dev"
        [("PORT", .integer 0), ("HOST", .text "a"), ("PORT", .text "x")] ["HOST"]
        (.validation [⟨"PORT", "value must be a port number between 1 and 65535"⟩,
          ⟨"PORT", "value is not a valid integer"⟩]) := by
  have hstarted : ofProfiles [serverProfile] none = .ok ⟨[serverProfile], none⟩ := rfl
  have hrefused (unsets : List String) := batch_refused_at_first_stage build_addressCatalog
    (.ofProfiles hstarted) serverHistory "dev"
    [("PORT", .integer 0), ("HOST", .text "a"), ("PORT", .text "x")] unsets
  have htwice := ((hrefused ["HOST", "SERVER"]).1 (.notSet "SERVER" "dev")).mp (by decide +kernel)
  exact ⟨_, _, build_addressCatalog, hstarted, .ofProfiles hstarted, htwice,
    (hrefused ["HOST", "SERVER"]).2.2 _ htwice, ((hrefused ["HOST"]).1 _).mp (by decide +kernel)⟩

end Collection

end LayeredSettings
