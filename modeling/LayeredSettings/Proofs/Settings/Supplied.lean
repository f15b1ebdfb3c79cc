import LayeredSettings.Settings.Resolve
import LayeredSettings.Proofs.Error
import LayeredSettings.Proofs.NameMap
import LayeredSettings.Proofs.Registry.Keys
import LayeredSettings.Proofs.Text.ByteOrder
import Mathlib.Data.List.Induction

/-!
# What each layer supplies for a setting

A layer may know a setting under its name and under deprecated names. Overrides and stored values
are first put under the settings' own names; these lemmas say what is then found there, in terms of
the keys that were given.
-/

namespace LayeredSettings

variable {r : Registry} {d : Definition}

/-- Overrides of known settings, each under the name of its setting. -/
theorem mem_of_mapM_lookup {entries named : List (String × Value)}
    (hok : entries.mapM (fun (key, value) => do return ((← r.lookup key).name, value)) = .ok named)
    (name : String) (value : Value) :
    (name, value) ∈ named ↔
      ∃ key e, (key, value) ∈ entries ∧ r.find? key = some e ∧ e.name = name := by
  induction entries generalizing named with
  | nil =>
    have hnil : [] = named := by simpa [pure, Except.pure] using hok
    simp [← hnil]
  | cons entry rest ih =>
    obtain ⟨key, first⟩ := entry
    rw [List.mapM_cons] at hok
    obtain ⟨head, hhead, hok⟩ := bind_eq_ok hok
    obtain ⟨tail, htail, hok⟩ := bind_eq_ok hok
    obtain ⟨e, he, hpair⟩ := bind_eq_ok hhead
    have hfind : r.find? key = some e := Registry.lookup_eq_ok_iff.mp he
    cases hpair
    cases hok
    rw [List.mem_cons, ih htail]
    constructor
    · rintro (heq | ⟨key', e', hmem, hfind', hname⟩)
      · obtain ⟨rfl, rfl⟩ := Prod.mk.inj heq
        exact ⟨key, e, List.mem_cons_self, hfind, rfl⟩
      · exact ⟨key', e', List.mem_cons_of_mem _ hmem, hfind', hname⟩
    · rintro ⟨key', e', hmem, hfind', rfl⟩
      rcases List.mem_cons.mp hmem with heq | hmem
      · obtain ⟨rfl, rfl⟩ := Prod.mk.inj heq
        rw [hfind] at hfind'
        exact Or.inl (by rw [Option.some.inj hfind'])
      · exact Or.inr ⟨key', e', hmem, hfind', rfl⟩

/-- The override that counts for a setting: of those given under the setting's keys, the one whose
key comes last. -/
def Overrides.Gives (overrides : Overrides) (d : Definition) (value : Value) : Prop :=
  ∃ key ∈ d.keys, overrides.get? key = some value ∧
    ∀ other ∈ d.keys, overrides.contains other → other ≤ key

/-- Of overrides in the order of their keys, put under the names of their settings, the last one of
a setting is found. -/
private theorem lookup_reverse_of_mapM (h : r.Consistent) (hd : d ∈ r.definitions)
    {entries named : List (String × Value)} (hsorted : entries.Pairwise (fun a b => a.1 < b.1))
    (hok : entries.mapM (fun (key, value) => do return ((← r.lookup key).name, value)) = .ok named)
    {value : Value} :
    named.reverse.lookup d.name = some value ↔
      ∃ key ∈ d.keys, (key, value) ∈ entries ∧ ∀ e ∈ entries, e.1 ∈ d.keys → e.1 ≤ key := by
  -- Going on by the last entry: it is looked up first, and its key is the greatest.
  induction entries using List.reverseRecOn generalizing named with
  | nil =>
    cases hok
    simp
  | append_singleton init entry ih =>
    obtain ⟨last, held⟩ := entry
    obtain ⟨hsorted, -, hlast⟩ := List.pairwise_append.mp hsorted
    have hlt : ∀ e ∈ init, e.1 < last := fun e he => hlast e he _ List.mem_cons_self
    rw [List.mapM_append, List.mapM_cons, List.mapM_nil] at hok
    obtain ⟨before, hbefore, hok⟩ := bind_eq_ok hok
    obtain ⟨tail, htail, hok⟩ := bind_eq_ok hok
    obtain ⟨pair, hpair, htail⟩ := bind_eq_ok htail
    obtain ⟨e, he, hpair⟩ := bind_eq_ok hpair
    cases hpair
    cases htail
    cases hok
    obtain ⟨hmem, hkey⟩ := h.find?_eq_some_iff.mp (Registry.lookup_eq_ok_iff.mp he)
    rw [List.reverse_append, List.reverse_singleton, List.singleton_append,
      lookup_cons_ite]
    by_cases hname : d.name = e.name
    · have hlastkey : last ∈ d.keys := by rwa [h.eq_of_name_eq hd hmem hname]
      rw [if_pos hname]
      constructor
      · rintro ⟨⟩
        refine ⟨last, hlastkey, by simp, fun f hf _ => ?_⟩
        rcases List.mem_append.mp hf with hf | hf
        · exact (hlt f hf).le
        · exact (List.mem_singleton.mp hf ▸ le_rfl)
      · rintro ⟨key, -, hmem, hgreatest⟩
        have hle : last ≤ key := hgreatest (last, held) (by simp) hlastkey
        rcases List.mem_append.mp hmem with hmem | hmem
        · exact absurd (hlt _ hmem) (not_lt.mpr hle)
        · exact congrArg (some ∘ Prod.snd) (List.mem_singleton.mp hmem).symm
    · have hlastkey : last ∉ d.keys := fun hother => hname <|
        congrArg Definition.name (h.eq_of_shared_key hd hmem hother hkey)
      rw [if_neg hname, ih hsorted hbefore]
      refine exists_congr fun key => and_congr_right fun hkeyd => ?_
      have hne : key ≠ last := fun heq => hlastkey (heq ▸ hkeyd)
      simp [hne, hlastkey, or_imp, forall_and]

/-- Under a setting's own name stands the override that counts for the setting. -/
theorem get?_canonicalOverrides_eq_some_iff (h : r.Consistent) (hd : d ∈ r.definitions)
    {overrides : Overrides} {named : NameMap Value}
    (hok : canonicalOverrides r overrides = .ok named) {value : Value} :
    named.get? d.name = some value ↔ overrides.Gives d value := by
  obtain ⟨l, hl, hnamed⟩ := bind_eq_ok hok
  cases hnamed
  rw [NameMap.get?_ofList, lookup_reverse_of_mapM h hd overrides.sorted hl]
  unfold Overrides.Gives
  simp only [overrides.get?_eq_some_iff]
  refine exists_congr fun key => and_congr_right fun _ => and_congr_right fun _ => ?_
  constructor
  · intro hlast other hother hcontains
    obtain ⟨w, hw⟩ := Option.isSome_iff_exists.mp hcontains
    exact hlast (other, w) (overrides.get?_eq_some_iff.mp hw) hother
  · rintro hlast ⟨other, w⟩ he hother
    exact hlast other hother (by simp [NameMap.contains, overrides.get?_eq_some_iff.mpr he])

/-- Overrides of known settings only are put under the settings' own names. -/
theorem exists_canonicalOverrides {overrides : Overrides}
    (hknown : ∀ key ∈ overrides.keys, r.contains key) :
    ∃ named, canonicalOverrides r overrides = .ok named := by
  have hnamed : ∀ l : List (String × Value), (∀ key ∈ l.map (·.1), r.contains key) →
      ∃ named, l.mapM (fun (key, value) => do return ((← r.lookup key).name, value)) =
        (.ok named : Except SettingsError _) := by
    intro l hl
    induction l with
    | nil => exact ⟨[], rfl⟩
    | cons entry rest ih =>
      obtain ⟨key, value⟩ := entry
      obtain ⟨tail, htail⟩ := ih fun other hother => hl other (List.mem_cons_of_mem _ hother)
      obtain ⟨e, he⟩ := Option.isSome_iff_exists.mp (hl key List.mem_cons_self)
      have hlookup : r.lookup key = .ok e := Registry.lookup_eq_ok_iff.mpr he
      refine ⟨(e.name, value) :: tail, ?_⟩
      rw [List.mapM_cons]
      simp only [htail, hlookup]
      rfl
  obtain ⟨named, hok⟩ := hnamed overrides.entries hknown
  refine ⟨.ofList named, ?_⟩
  unfold canonicalOverrides
  rw [hok]
  rfl

/-- At most one key of each setting is overridden. -/
def Registry.OneKeyEach (r : Registry) (overrides : Overrides) : Prop :=
  ∀ d ∈ r.definitions, ∀ key ∈ d.keys, ∀ other ∈ d.keys,
    overrides.contains key → overrides.contains other → key = other

/-- Under a setting's own name stands the override given under whichever of its keys. -/
theorem get?_canonicalOverrides_of_given (h : r.Consistent) (hd : d ∈ r.definitions)
    {overrides : Overrides} {named : NameMap Value} (hone : r.OneKeyEach overrides)
    (hok : canonicalOverrides r overrides = .ok named) {key : String} {value : Value}
    (hkey : key ∈ d.keys) (hvalue : overrides.get? key = some value) :
    named.get? d.name = some value := by
  refine (get?_canonicalOverrides_eq_some_iff h hd hok).mpr ⟨key, hkey, hvalue, ?_⟩
  intro other hother hcontains
  have hsame : other = key := hone d hd other hother key hkey hcontains
    (by simp [NameMap.contains, hvalue])
  exact hsame.le

/-- Under a setting's own name stands nothing if none of its keys is overridden. -/
theorem get?_canonicalOverrides_of_absent (h : r.Consistent) (hd : d ∈ r.definitions)
    {overrides : Overrides} {named : NameMap Value}
    (hok : canonicalOverrides r overrides = .ok named)
    (habsent : ∀ key ∈ d.keys, overrides.get? key = none) : named.get? d.name = none := by
  refine Option.eq_none_iff_forall_ne_some.mpr fun value hvalue => ?_
  obtain ⟨key, hkey, hgiven, -⟩ := (get?_canonicalOverrides_eq_some_iff h hd hok).mp hvalue
  rw [habsent key hkey] at hgiven
  cases hgiven

/-- The text that an environment supplies for a setting: that of the variable of its name, else that
of the first deprecated name, in the order of the definition, whose variable is set. -/
inductive Environment.Supplies (env : Environment) (r : Registry) (d : Definition) : String → Prop
  | named {text : String} (hname : env.get? (r.boundVariable d) = some text) :
      Environment.Supplies env r d text
  | aliased {before after : List String} {old text : String}
      (hname : env.get? (r.boundVariable d) = none)
      (haliases : d.aliases = before ++ old :: after)
      (hbefore : ∀ other ∈ before, env.get? (Text.upper other) = none)
      (hold : env.get? (Text.upper old) = some text) : Environment.Supplies env r d text

/-- A text that is looked up is one that the environment supplies. -/
theorem Environment.supplies_of_lookup? {env : Environment} {text : String}
    (h : env.lookup? r d = some text) : env.Supplies r d text := by
  unfold Environment.lookup? Registry.variableNames at h
  rw [List.findSome?_cons] at h
  cases hname : env.get? (r.boundVariable d) with
  | some found =>
    rw [hname] at h
    cases h
    exact .named hname
  | none =>
    rw [hname, List.findSome?_map] at h
    obtain ⟨before, old, after, haliases, hold, hbefore⟩ := List.findSome?_eq_some_iff.mp h
    exact .aliased hname haliases hbefore hold

/-- What an environment supplies is what is looked up, so it is one text at most. -/
theorem Environment.Supplies.lookup?_eq {env : Environment} {text : String}
    (h : env.Supplies r d text) : env.lookup? r d = some text := by
  unfold Environment.lookup? Registry.variableNames
  cases h with
  | named hname => rw [List.findSome?_cons, hname]
  | aliased hname haliases hbefore hold =>
    rw [List.findSome?_cons, hname, List.findSome?_map]
    exact List.findSome?_eq_some_iff.mpr ⟨_, _, _, haliases, hold, hbefore⟩

/-- A text is looked up exactly if the environment supplies it. -/
theorem Environment.lookup?_eq_some_iff {env : Environment} {text : String} :
    env.lookup? r d = some text ↔ env.Supplies r d text :=
  ⟨supplies_of_lookup?, Supplies.lookup?_eq⟩

/-- If no text is looked up, none of the setting's variables is set. -/
theorem Environment.get?_eq_none_of_lookup? {env : Environment} (h : env.lookup? r d = none) :
    ∀ name ∈ r.variableNames d, env.get? name = none :=
  List.findSome?_eq_none_iff.mp h

/-- The raw value that a profile stores for a setting: that under its name, else that under the
deprecated name which is the first in the order of bytes of those stored. -/
inductive Profile.Stores (p : Profile) (d : Definition) : Raw → Prop
  | named {raw : Raw} (hname : p.settings.get? d.name = some raw) : Profile.Stores p d raw
  | aliased {old : String} {raw : Raw} (hname : p.settings.get? d.name = none)
      (hmem : old ∈ d.aliases) (hold : p.settings.get? old = some raw)
      (hfirst : ∀ other ∈ d.aliases, p.settings.contains other → other ≠ old →
        Text.bytes old < Text.bytes other) : Profile.Stores p d raw

/-- What a profile stores for a setting is the value of one of the setting's keys. -/
theorem Profile.Stores.exists_key {p : Profile} {raw : Raw} (h : p.Stores d raw) :
    ∃ key ∈ d.keys, p.settings.get? key = some raw := by
  cases h with
  | named hname => exact ⟨d.name, List.mem_cons_self, hname⟩
  | aliased _ hmem hold _ => exact ⟨_, List.mem_cons_of_mem _ hmem, hold⟩

/-- A profile stores one value at most for a setting. -/
theorem Profile.Stores.unique {p : Profile} {raw other : Raw} (h : p.Stores d raw)
    (hother : p.Stores d other) : raw = other := by
  cases h with
  | named hname =>
    cases hother with
    | named hname' => exact Option.some.inj (hname.symm.trans hname')
    | aliased hnone => simp [hname] at hnone
  | @aliased old _ hnone hmem hold hfirst =>
    cases hother with
    | named hname => simp [hname] at hnone
    | @aliased old' _ _ hmem' hold' hfirst' =>
      by_cases heq : old = old'
      · rw [heq] at hold
        exact Option.some.inj (hold.symm.trans hold')
      · have hlt := hfirst old' hmem' (by simp [NameMap.contains, hold']) (Ne.symm heq)
        have hgt := hfirst' old hmem (by simp [NameMap.contains, hold]) heq
        exact absurd hgt (List.lt_asymm hlt)

/-- Values put under the names of their settings one by one: for a setting there is then what stands
under its own name, else what was there before, else the first value under a deprecated name. -/
theorem get?_foldl_addEffective (h : r.Consistent) (hd : d ∈ r.definitions)
    {l : List (String × Raw)} (hnodup : (l.map (·.1)).Nodup) (values : NameMap Raw) :
    (l.foldl (Profile.addEffective r) values).get? d.name =
      (l.lookup d.name).or ((values.get? d.name).or
        ((l.find? (·.1 ∈ d.aliases)).map (·.2))) := by
  induction l generalizing values with
  | nil => simp
  | cons entry rest ih =>
    obtain ⟨key, raw⟩ := entry
    obtain ⟨hnot, hnodup⟩ := List.nodup_cons.mp hnodup
    rw [List.foldl_cons, ih hnodup, lookup_cons_ite, List.find?_cons]
    by_cases hkey : key ∈ d.keys
    · have hfind : r.find? key = some d := h.find?_eq_some_iff.mpr ⟨hd, hkey⟩
      have hadd : Profile.addEffective r values (key, raw) =
          if d.name = key ∨ !values.contains d.name then values.insert d.name raw
          else values := by
        simp only [Profile.addEffective, hfind]
      rw [hadd]
      by_cases hname : d.name = key
      · -- The value under the setting's own name replaces whatever there was.
        have habsent : rest.lookup d.name = none := by
          refine lookup_eq_none_of_forall fun other hother => hnot ?_
          exact List.mem_map.mpr ⟨(d.name, other), hother, hname⟩
        rw [if_pos (Or.inl hname), if_pos hname, NameMap.get?_insert, if_pos rfl, habsent]
        rfl
      · have halias : key ∈ d.aliases :=
          (List.mem_cons.mp hkey).resolve_left fun heq => hname heq.symm
        rw [if_neg hname]
        cases hvalue : values.get? d.name with
        | none =>
          have hfree : d.name = key ∨ !values.contains d.name := by
            simp [NameMap.contains, hvalue]
          rw [if_pos hfree, NameMap.get?_insert, if_pos rfl]
          simp [halias]
        | some held =>
          have htaken : ¬(d.name = key ∨ !values.contains d.name) := by
            simp [NameMap.contains, hvalue, hname]
          rw [if_neg htaken, hvalue]
          rfl
    · have hname : d.name ≠ key := fun heq => hkey (heq ▸ List.mem_cons_self)
      have halias : key ∉ d.aliases := fun hmem => hkey (List.mem_cons_of_mem _ hmem)
      have hsame : (Profile.addEffective r values (key, raw)).get? d.name =
          values.get? d.name := by
        unfold Profile.addEffective
        cases hfind : r.find? key with
        | none => rfl
        | some e =>
          obtain ⟨he, hkeye⟩ := h.find?_eq_some_iff.mp hfind
          have hne : d.name ≠ e.name := fun heq =>
            hkey (h.eq_of_name_eq hd he heq ▸ hkeye)
          dsimp only
          split
          · rw [NameMap.get?_insert, if_neg hne]
          · rfl
      rw [hsame, if_neg hname]
      simp [halias]

/-- In a sorted list what stands neither before a key nor under it comes after it. -/
private theorem first_entry_lt {l before after : List (String × Raw)} {key : String} {raw : Raw}
    (hsorted : l.Pairwise (fun a b => a.1 < b.1)) (hsplit : l = before ++ (key, raw) :: after)
    {other : String × Raw} (hother : other ∈ l) (hbefore : other ∉ before) (hne : other.1 ≠ key) :
    key < other.1 := by
  subst hsplit
  rcases List.mem_append.mp hother with hmem | hmem
  · exact absurd hmem hbefore
  · rcases List.mem_cons.mp hmem with rfl | hmem
    · exact absurd rfl hne
    · exact (List.pairwise_cons.mp (List.pairwise_append.mp hsorted).2.1).1 other hmem

/-- What a profile holds for a setting, once read, is what the profile stores for it. -/
theorem Profile.stores_of_get?_effective (h : r.Consistent) (hd : d ∈ r.definitions) {p : Profile}
    {raw : Raw} (hget : (p.effective r).get? d.name = some raw) : p.Stores d raw := by
  unfold Profile.effective at hget
  rw [get?_foldl_addEffective h hd p.settings.nodup_keys] at hget
  change (p.settings.get? d.name).or _ = _ at hget
  cases hname : p.settings.get? d.name with
  | some found =>
    rw [hname] at hget
    cases hget
    exact .named hname
  | none =>
    rw [hname, NameMap.get?_empty] at hget
    obtain ⟨⟨old, stored⟩, hfind, hstored⟩ := Option.map_eq_some_iff.mp hget
    cases hstored
    obtain ⟨hold, before, after, hsplit, hbefore⟩ := List.find?_eq_some_iff_append.mp hfind
    have hmem : (old, stored) ∈ p.settings.entries := by rw [hsplit]; simp
    refine .aliased hname (by simpa using hold) (p.settings.get?_eq_some_iff.mpr hmem) ?_
    intro other hother hcontains hne
    obtain ⟨value, hvalue⟩ := Option.isSome_iff_exists.mp hcontains
    have hentry := p.settings.get?_eq_some_iff.mp hvalue
    refine Text.bytes_lt_of_lt (first_entry_lt p.settings.sorted hsplit hentry ?_ hne)
    intro hearly
    simpa [hother] using hbefore _ hearly

/-- A profile that holds nothing for a setting, once read, stores none of its keys. -/
theorem Profile.get?_eq_none_of_get?_effective (h : r.Consistent) (hd : d ∈ r.definitions)
    {p : Profile} (hget : (p.effective r).get? d.name = none) :
    ∀ key ∈ d.keys, p.settings.get? key = none := by
  unfold Profile.effective at hget
  rw [get?_foldl_addEffective h hd p.settings.nodup_keys] at hget
  change (p.settings.get? d.name).or _ = _ at hget
  rw [Option.or_eq_none_iff, Option.or_eq_none_iff, Option.map_eq_none_iff,
    List.find?_eq_none] at hget
  obtain ⟨hname, -, haliases⟩ := hget
  intro key hkey
  rcases List.mem_cons.mp hkey with rfl | halias
  · exact hname
  · refine p.settings.get?_eq_none_iff.mpr fun hmem => ?_
    obtain ⟨entry, hentry, rfl⟩ := List.mem_map.mp hmem
    simpa [halias] using haliases entry hentry

/-- What a profile holds for a setting, once read, is exactly what the profile stores for it. -/
theorem Profile.get?_effective_eq_some_iff (h : r.Consistent) (hd : d ∈ r.definitions)
    {p : Profile} {raw : Raw} : (p.effective r).get? d.name = some raw ↔ p.Stores d raw := by
  constructor
  · exact stores_of_get?_effective h hd
  · intro hstores
    cases hget : (p.effective r).get? d.name with
    | some other =>
      rw [(stores_of_get?_effective h hd hget).unique hstores]
    | none =>
      obtain ⟨key, hkey, hstored⟩ := hstores.exists_key
      rw [get?_eq_none_of_get?_effective h hd hget key hkey] at hstored
      cases hstored

end LayeredSettings
