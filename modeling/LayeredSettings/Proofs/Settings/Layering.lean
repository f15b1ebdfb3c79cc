import LayeredSettings.Settings.Layer
import LayeredSettings.Proofs.Settings.Dependence

/-!
# Layering overrides on a snapshot

Overrides can be put on top of a snapshot without resolving again. The result is what resolving with
the overrides gives, the errors included, unless a template default refers to a setting that is
overridden: such a template is not filled again.
-/

namespace LayeredSettings

variable {r : Registry} {d : Definition}

namespace Settings

variable {s t l : Settings} {supply : Entry → Option (Definition × Supply)}

/-- An entry keeps its name whatever a layer supplies for it. -/
@[simp] theorem Layered.name_entry_of (e : Entry) (supplied : Option (Definition × Supply)) :
    (Layered.of e supplied).entry.name = e.name := by
  cases supplied with
  | none => rfl
  | some given => exact e.accept_name given.2

/-- A layering fails with all that is wrong with what the layer supplies for the entries, in their
order. -/
theorem layerWith_eq (s : Settings) (supply : Entry → Option (Definition × Supply)) :
    s.layerWith supply = (do
      SettingsError.ofFailures (s.entries.flatMap fun e => (Layered.of e (supply e)).failures)
      return ⟨s.entries.map fun e => (Layered.of e (supply e)).entry⟩) := by
  unfold layerWith
  simp only [List.map_map, List.flatMap_map]
  rfl

/-- A layering that succeeds found nothing wrong with what the layer supplies, and each entry has
taken what is supplied for it. -/
theorem layerWith_eq_ok_iff : s.layerWith supply = .ok l ↔
    (∀ e ∈ s.entries, (Layered.of e (supply e)).failures = []) ∧
      l = ⟨s.entries.map fun e => (Layered.of e (supply e)).entry⟩ := by
  rw [layerWith_eq]
  constructor
  · intro hok
    obtain ⟨_, hnone, hok⟩ := bind_eq_ok hok
    cases hok
    exact ⟨List.flatMap_eq_nil_iff.mp (SettingsError.ofFailures_eq_ok_iff.mp hnone), rfl⟩
  · rintro ⟨hnone, rfl⟩
    rw [List.flatMap_eq_nil_iff.mpr hnone]
    rfl

/-- A layering that succeeds keeps the names of the entries and their order. -/
theorem map_name_of_layerWith (hok : s.layerWith supply = .ok l) :
    l.entries.map (·.name) = s.entries.map (·.name) := by
  obtain ⟨-, rfl⟩ := layerWith_eq_ok_iff.mp hok
  rw [List.map_map]
  exact List.map_congr_left fun e _ => Layered.name_entry_of e (supply e)

/-- After a layering the entry found under a name is the one that was found before, with what is
supplied for it. -/
theorem get?_of_layerWith (hok : s.layerWith supply = .ok l) (name : String) :
    l.get? name = (s.get? name).map fun e => (Layered.of e (supply e)).entry := by
  obtain ⟨-, rfl⟩ := layerWith_eq_ok_iff.mp hok
  unfold get?
  rw [List.find?_map]
  simp only [Function.comp_def, Layered.name_entry_of]

/-- Snapshots with one entry for each definition, in the order of the registry, are one if they hold
the same for each definition. -/
theorem eq_of_get?_eq (h : r.Consistent) (hs : s.entries.map (·.name) = r.names)
    (ht : t.entries.map (·.name) = r.names)
    (hsame : ∀ d ∈ r.definitions, s.get? d.name = t.get? d.name) : s = t := by
  have hentries (u : Settings) (hu : u.entries.map (·.name) = r.names) :
      u.entries.map some = r.names.map u.get? := by
    rw [← hu, List.map_map]
    exact List.map_congr_left fun e he =>
      ((get?_eq_some_iff (hu ▸ h.nodup_names)).mpr ⟨he, rfl⟩).symm
  have hnames : r.names.map s.get? = r.names.map t.get? := by
    unfold Registry.names
    rw [List.map_map, List.map_map]
    exact List.map_congr_left hsame
  have hmaps : s.entries.map some = t.entries.map some := by
    rw [hentries s hs, hentries t ht, hnames]
  cases s
  cases t
  exact congrArg Settings.mk (List.map_injective_iff.mpr (fun _ _ => Option.some.inj) hmaps)

/-- A snapshot with one entry for each definition holds something for each definition. -/
theorem exists_get?_of_names (hs : s.entries.map (·.name) = r.names) (hd : d ∈ r.definitions) :
    ∃ e, s.get? d.name = some e ∧ e.name = d.name := by
  have hmem : d.name ∈ s.entries.map (·.name) := hs ▸ List.mem_map_of_mem hd
  obtain ⟨e, he, hname⟩ := List.mem_map.mp hmem
  cases hget : s.get? d.name with
  | none => simpa [hname] using List.find?_eq_none.mp hget e he
  | some found => exact ⟨found, rfl, by simpa using List.find?_some hget⟩

/-- An entry of a snapshot with one entry for each definition is what is found under the name of its
definition. -/
theorem exists_definition_of_mem (h : r.Consistent) (hs : s.entries.map (·.name) = r.names)
    {e : Entry} (he : e ∈ s.entries) :
    ∃ d ∈ r.definitions, e.name = d.name ∧ s.get? d.name = some e := by
  have hmem : e.name ∈ r.names := hs ▸ List.mem_map_of_mem he
  obtain ⟨d, hd, hname⟩ := List.mem_map.mp hmem
  exact ⟨d, hd, hname.symm, (get?_eq_some_iff (hs ▸ h.nodup_names)).mpr ⟨he, hname.symm⟩⟩

end Settings

/-- One of a setting's keys is overridden. -/
def Overrides.Replaces (overrides : Overrides) (d : Definition) : Prop :=
  ∃ key ∈ d.keys, overrides.contains key

/-- What overrides under the settings' own names supply for a setting. -/
def overrideFor (named : NameMap Value) (d : Definition) : Option Supply :=
  (named.get? d.name).map fun value => ⟨.override, (d.validate value).map fun _ => value⟩

/-- An override that fits is supplied as what it is. -/
theorem eq_of_overrideFor {named : NameMap Value} {supply : Supply} {value : Value}
    (hsupply : overrideFor named d = some supply) (hvalue : supply.outcome = .ok value) :
    supply = ⟨.override, .ok value⟩ := by
  obtain ⟨given, -, rfl⟩ := Option.map_eq_some_iff.mp hsupply
  rw [← hvalue]

/-- Overrides are supplied for the settings one of whose keys is overridden. -/
theorem isSome_overrideFor_iff (h : r.Consistent) (hd : d ∈ r.definitions) {overrides : Overrides}
    {named : NameMap Value} (hok : canonicalOverrides r overrides = .ok named) :
    (overrideFor named d).isSome ↔ overrides.Replaces d := by
  unfold overrideFor
  rw [Option.isSome_map]
  constructor
  · intro hsome
    by_contra hnot
    have habsent : ∀ key ∈ d.keys, overrides.get? key = none := by
      intro key hkey
      by_contra hgiven
      exact hnot ⟨key, hkey, Option.isSome_iff_ne_none.mpr hgiven⟩
    simp [get?_canonicalOverrides_of_absent h hd hok habsent] at hsome
  · rintro ⟨key, hkey, hcontains⟩
    obtain ⟨value, hvalue⟩ := Option.isSome_iff_exists.mp hcontains
    obtain ⟨l, hl, hnamed⟩ := bind_eq_ok hok
    cases hnamed
    have hmem := (mem_of_mapM_lookup hl d.name value).mpr
      ⟨key, d, overrides.get?_eq_some_iff.mp hvalue, h.find?_eq_some_iff.mpr ⟨hd, hkey⟩, rfl⟩
    rw [NameMap.get?_ofList, Option.isSome_iff_ne_none]
    intro hnone
    simpa using List.lookup_eq_none_iff.mp hnone _ (List.mem_reverse.mpr hmem)

/-- Overrides come on top of what the other layers supply. -/
theorem supplies_eq_append (stored : NameMap Raw) (env : Environment) (named : NameMap Value) :
    supplies r stored env named d =
      supplies r stored env .empty d ++ (overrideFor named d).toList := by
  unfold supplies overrideFor
  simp

/-- What overrides supply for an entry is what they supply for its setting. -/
theorem overrideSupply_eq (h : r.Consistent) (hd : d ∈ r.definitions) (named : NameMap Value)
    {e : Entry} (hname : e.name = d.name) :
    Settings.overrideSupply r named e = (overrideFor named d).map fun supply => (d, supply) := by
  have hfind : r.find? e.name = some d :=
    h.find?_eq_some_iff.mpr ⟨hd, hname ▸ List.mem_cons_self⟩
  unfold Settings.overrideSupply overrideFor
  rw [hfind]
  cases hget : named.get? d.name <;> simp [hget]

/-- The entries of all settings after all layers, before templates are filled. -/
def mergedEntries (r : Registry) (stored : NameMap Raw) (env : Environment)
    (named : NameMap Value) : List Entry :=
  r.definitions.map fun d => mergedEntry d (supplies r stored env named d)

/-- The merged entries carry the names of the registry, in its order. -/
theorem map_name_mergedEntries (stored : NameMap Raw) (env : Environment) (named : NameMap Value) :
    (mergedEntries r stored env named).map (·.name) = r.names :=
  map_mergedEntry_name _

/-- The entry of a definition among the merged entries. -/
theorem get?_mergedEntries (h : r.Consistent) (hd : d ∈ r.definitions) (stored : NameMap Raw)
    (env : Environment) (named : NameMap Value) :
    (Settings.mk (mergedEntries r stored env named)).get? d.name =
      some (mergedEntry d (supplies r stored env named d)) := by
  refine (Settings.get?_eq_some_iff ?_).mpr ⟨List.mem_map_of_mem hd, mergedEntry_name d _⟩
  exact map_name_mergedEntries (r := r) stored env named ▸ h.nodup_names

/-- Filling templates keeps the layers that the entries come from. -/
theorem source_of_expanded (h : r.Consistent) {stored : NameMap Raw} {env : Environment}
    {named : NameMap Value} {s : Settings}
    (hs : expandTemplates r (mergedEntries r stored env named) = .ok s.entries)
    (hd : d ∈ r.definitions) {e : Entry} (he : s.get? d.name = some e) :
    e.source = (mergedEntry d (supplies r stored env named d)).source := by
  have hnames := map_name_mergedEntries (r := r) stored env named
  obtain ⟨horder, -, -⟩ := solves_of_expandTemplates h hnames hs
  obtain ⟨hmem, hname⟩ := (Settings.get?_eq_some_iff (horder ▸ h.nodup_names)).mp he
  exact (entry_of_expandTemplates h hnames hs (List.mem_map_of_mem hd) hmem
    (hname.trans (mergedEntry_name d _).symm)).1

/-- A setting whose merged entry comes from a layer above the defaults waits for no template. -/
theorem not_isOpen_mergedEntries (h : r.Consistent) (hd : d ∈ r.definitions)
    {stored : NameMap Raw} {env : Environment} {named : NameMap Value}
    (hsource : (mergedEntry d (supplies r stored env named d)).source ≠ .default) :
    ¬ Expansion.isOpen (mergedEntries r stored env named) d := by
  intro hopen
  have hnodup := map_name_mergedEntries (r := r) stored env named ▸ h.nodup_names
  obtain ⟨-, e, he, hdefault⟩ := (isOpen_iff_get? hnodup).mp hopen
  rw [get?_mergedEntries h hd] at he
  exact hsource (Option.some.inj he ▸ hdefault)

/-- A setting that is left at its default and waits for no template has none. -/
theorem template?_eq_none_of_not_isOpen (h : r.Consistent) (hd : d ∈ r.definitions)
    {stored : NameMap Raw} {env : Environment} {named : NameMap Value}
    (hclosed : ¬ Expansion.isOpen (mergedEntries r stored env named) d)
    (hsource : (mergedEntry d (supplies r stored env named d)).source = .default) :
    d.template? = none := by
  by_contra hsome
  have hnodup := map_name_mergedEntries (r := r) stored env named ▸ h.nodup_names
  exact hclosed ((isOpen_iff_get? hnodup).mpr ⟨Option.isSome_iff_ne_none.mpr hsome, _,
    get?_mergedEntries h hd stored env named, hsource⟩)

section Overridden

variable {stored : NameMap Raw} {env : Environment} {overrides : Overrides}
  {named : NameMap Value} {b s l : Settings}

/-- A setting that is not overridden is supplied with the same with and without the overrides. -/
private theorem supplies_of_not_replaces (h : r.Consistent) (hd : d ∈ r.definitions)
    (hnamed : canonicalOverrides r overrides = .ok named) (hnot : ¬ overrides.Replaces d) :
    supplies r stored env named d = supplies r stored env .empty d := by
  have hnone : overrideFor named d = none := by
    rw [← isSome_overrideFor_iff h hd hnamed] at hnot
    simpa using hnot
  rw [supplies_eq_append, hnone, Option.toList_none, List.append_nil]

/-- The entry of a setting for which an override is supplied that fits. -/
private theorem mergedEntry_of_overrideFor {supply : Supply} {value : Value}
    (hsupply : overrideFor named d = some supply) (hvalue : supply.outcome = .ok value) :
    mergedEntry d (supplies r stored env named d) = ⟨d.name, some value, .override⟩ := by
  rw [supplies_eq_append, hsupply, eq_of_overrideFor hsupply hvalue, Option.toList_some,
    mergedEntry_concat]

section Layered

variable (h : r.Consistent) (horder : b.entries.map (·.name) = r.names)
include h horder

/-- What is wrong with overrides on a snapshot is what is wrong with them for the settings, in the
order of the registry. -/
private theorem failures_layered (named : NameMap Value) :
    (b.entries.flatMap fun e =>
        (Settings.Layered.of e (Settings.overrideSupply r named e)).failures) =
      r.definitions.flatMap fun d => supplyFailures d (overrideFor named d).toList := by
  let failuresAt (name : String) : List Failure :=
    (r.find? name).elim [] fun d => supplyFailures d (overrideFor named d).toList
  have hdefinition : ∀ d ∈ r.definitions,
      failuresAt d.name = supplyFailures d (overrideFor named d).toList := by
    intro d hd
    have hfind : r.find? d.name = some d := h.find?_eq_some_iff.mpr ⟨hd, List.mem_cons_self⟩
    simp only [failuresAt, hfind, Option.elim_some]
  have hentry : ∀ e ∈ b.entries,
      (Settings.Layered.of e (Settings.overrideSupply r named e)).failures = failuresAt e.name := by
    intro e he
    have hmem : e.name ∈ r.names := horder ▸ List.mem_map_of_mem he
    obtain ⟨d, hd, hname⟩ := List.mem_map.mp hmem
    rw [overrideSupply_eq h hd named hname.symm, ← hname, hdefinition d hd]
    cases overrideFor named d <;> rfl
  calc b.entries.flatMap _
      = b.entries.flatMap fun e => failuresAt e.name := List.flatMap_congr hentry
    _ = (b.entries.map (·.name)).flatMap failuresAt := (List.flatMap_map _ _ _).symm
    _ = (r.definitions.map (·.name)).flatMap failuresAt := by rw [horder, Registry.names]
    _ = r.definitions.flatMap fun d => failuresAt d.name := List.flatMap_map _ _ _
    _ = _ := List.flatMap_congr hdefinition

/-- An entry for whose setting no override is supplied stays as it is. -/
private theorem get?_layered_of_none (hl : b.layerWith (Settings.overrideSupply r named) = .ok l)
    (hd : d ∈ r.definitions) (hnone : overrideFor named d = none) :
    l.get? d.name = b.get? d.name := by
  obtain ⟨e, hget, hname⟩ := Settings.exists_get?_of_names horder hd
  rw [Settings.get?_of_layerWith hl, hget, Option.map_some, overrideSupply_eq h hd named hname,
    hnone]
  rfl

/-- An entry for whose setting an override is supplied holds it. -/
private theorem get?_layered_of_some (hl : b.layerWith (Settings.overrideSupply r named) = .ok l)
    (hd : d ∈ r.definitions) {supply : Supply} {value : Value}
    (hsupply : overrideFor named d = some supply) (hvalue : supply.outcome = .ok value) :
    l.get? d.name = some ⟨d.name, some value, .override⟩ := by
  obtain ⟨e, hget, hname⟩ := Settings.exists_get?_of_names horder hd
  rw [Settings.get?_of_layerWith hl, hget, Option.map_some, overrideSupply_eq h hd named hname,
    hsupply, eq_of_overrideFor hsupply hvalue, ← hname]
  rfl

end Layered

section Merged

variable (h : r.Consistent) (hnamed : canonicalOverrides r overrides = .ok named)
  (hb : expandTemplates r (mergedEntries r stored env .empty) = .ok b.entries)
  (hl : b.layerWith (Settings.overrideSupply r named) = .ok l)
include h hnamed

/-- A setting that is not overridden has the same merged entry with and without overrides. -/
private theorem get?_mergedEntries_of_not_replaces (hd : d ∈ r.definitions)
    (hnot : ¬ overrides.Replaces d) :
    (Settings.mk (mergedEntries r stored env .empty)).get? d.name =
      (Settings.mk (mergedEntries r stored env named)).get? d.name := by
  rw [get?_mergedEntries h hd, get?_mergedEntries h hd, supplies_of_not_replaces h hd hnamed hnot]

include hb hl

/-- An entry whose setting is not overridden stays as it is. -/
private theorem get?_of_not_replaces (hd : d ∈ r.definitions) (hnot : ¬ overrides.Replaces d) :
    l.get? d.name = b.get? d.name := by
  obtain ⟨horder, -, -⟩ := solves_of_expandTemplates h (map_name_mergedEntries _ _ _) hb
  have hnone : overrideFor named d = none := by
    rw [← isSome_overrideFor_iff h hd hnamed] at hnot
    simpa using hnot
  exact get?_layered_of_none h horder hl hd hnone

/-- A setting that is overridden takes the override on the snapshot and among the merged entries,
where no template is left to be filled for it. -/
private theorem get?_of_replaces (hd : d ∈ r.definitions) (hreplaces : overrides.Replaces d) :
    l.get? d.name = (Settings.mk (mergedEntries r stored env named)).get? d.name ∧
      ¬ Expansion.isOpen (mergedEntries r stored env named) d := by
  obtain ⟨horder, -, -⟩ := solves_of_expandTemplates h (map_name_mergedEntries _ _ _) hb
  obtain ⟨supply, hsupply⟩ :=
    Option.isSome_iff_exists.mp ((isSome_overrideFor_iff h hd hnamed).mpr hreplaces)
  have hnone : r.definitions.flatMap (fun d => supplyFailures d (overrideFor named d).toList) =
      [] := by
    rw [← failures_layered h horder named]
    exact List.flatMap_eq_nil_iff.mpr (Settings.layerWith_eq_ok_iff.mp hl).1
  have hfits := supplyFailures_eq_nil_iff.mp (List.flatMap_eq_nil_iff.mp hnone d hd)
  rw [hsupply] at hfits
  obtain ⟨value, hvalue⟩ := hfits supply List.mem_cons_self
  have hmerged : mergedEntry d (supplies r stored env named d) = ⟨d.name, some value, .override⟩ :=
    mergedEntry_of_overrideFor hsupply hvalue
  constructor
  · rw [get?_layered_of_some h horder hl hd hsupply hvalue, get?_mergedEntries h hd, hmerged]
  · exact not_isOpen_mergedEntries h hd (by simp [hmerged])

/-- Overrides on a snapshot agree with resolving with them, except on the templates that draw on
them, which keep the values of the snapshot. -/
private theorem agrees_off_drawsOn
    (hs : expandTemplates r (mergedEntries r stored env named) = .ok s.entries)
    (hd : d ∈ r.definitions) :
    (¬ b.DrawsOn r overrides.Replaces d → l.get? d.name = s.get? d.name) ∧
      (b.DrawsOn r overrides.Replaces d → l.get? d.name = b.get? d.name) := by
  constructor
  · intro hnot
    by_cases hreplaces : overrides.Replaces d
    · obtain ⟨hsame, hclosed⟩ := get?_of_replaces h hnamed hb hl hd hreplaces
      rw [hsame, get?_of_not_isOpen h (map_name_mergedEntries _ _ _) hs hd hclosed]
    · rw [get?_of_not_replaces h hnamed hb hl hd hreplaces]
      exact Settings.get?_eq_of_not_drawsOn h (map_name_mergedEntries _ _ _)
        (map_name_mergedEntries _ _ _) hb hs
        (fun e he => get?_mergedEntries_of_not_replaces h hnamed he) hd hreplaces hnot
  · intro hdraws
    exact get?_of_not_replaces h hnamed hb hl hd hdraws.not_changed

/-- If no template draws on overrides that fit, the templates can be filled with them. -/
private theorem exists_expanded_of_not_drawsOn
    (hnone : ∀ d ∈ r.definitions, ¬ b.DrawsOn r overrides.Replaces d) :
    ∃ final, expandTemplates r (mergedEntries r stored env named) = .ok final := by
  have hnames := map_name_mergedEntries (r := r) stored env
  obtain ⟨rank, hrank⟩ := Expansion.exists_ranked_of_rounds hb
  have hopens : ∀ d ∈ r.definitions, ¬ overrides.Replaces d →
      (Expansion.isOpen (mergedEntries r stored env .empty) d ↔
        Expansion.isOpen (mergedEntries r stored env named) d) := fun d hd hnot =>
    isOpen_congr h (hnames .empty) (hnames named)
      (get?_mergedEntries_of_not_replaces h hnamed hd hnot)
  -- What waits with the overrides is not overridden, and waits without them too.
  have hwaits : ∀ d ∈ r.definitions, Expansion.isOpen (mergedEntries r stored env named) d →
      ¬ overrides.Replaces d ∧ Expansion.isOpen (mergedEntries r stored env .empty) d := by
    intro d hd hopen
    have hnot : ¬ overrides.Replaces d := fun hreplaces =>
      (get?_of_replaces h hnamed hb hl hd hreplaces).2 hopen
    exact ⟨hnot, (hopens d hd hnot).mpr hopen⟩
  refine Expansion.exists_final_of_ranked h (a := l.value?) (fun d hd => List.mem_of_mem_filter hd)
    (hnames named) (hrank.mono fun d hd => ?_) (fun d hd hnot => ?_) (fun d hd => ?_) rfl
  · obtain ⟨hd, hopen⟩ := List.mem_filter.mp hd
    exact List.mem_filter.mpr ⟨hd, (hwaits d hd hopen).2⟩
  · have hclosed : ¬ Expansion.isOpen (mergedEntries r stored env named) d := fun hopen =>
      hnot d (List.mem_filter.mpr ⟨hd, hopen⟩) rfl
    unfold Settings.value?
    by_cases hreplaces : overrides.Replaces d
    · rw [(get?_of_replaces h hnamed hb hl hd hreplaces).1]
    · rw [get?_of_not_replaces h hnamed hb hl hd hreplaces,
        get?_of_not_isOpen h (hnames .empty) hb hd (mt (hopens d hd hreplaces).mp hclosed),
        get?_mergedEntries_of_not_replaces h hnamed hd hreplaces]
  · obtain ⟨hd, hopen⟩ := List.mem_filter.mp hd
    obtain ⟨hnot, hopen⟩ := hwaits d hd hopen
    obtain ⟨value, hvalue, hcast⟩ := get?_of_isOpen h (hnames .empty) hb hd hopen
    refine ⟨value, ?_, ?_⟩
    · rw [Settings.value?, get?_of_not_replaces h hnamed hb hl hd hnot, hvalue]
      rfl
    · rw [Settings.fill_eq_of_not_drawsOn hnot (hnone d hd)
        (leftTo_of_isOpen h (hnames .empty) hb hopen) (b := b.value?)]
      · exact hcast
      · rintro target ⟨-, reference, -, hfind⟩ hunchanged -
        rw [Settings.value?, get?_of_not_replaces h hnamed hb hl (h.find?_eq_some_iff.mp hfind).1
          hunchanged, Settings.value?]

end Merged

end Overridden

/-- If nothing was wrong with what is supplied without overrides, what is wrong with overrides is
all that is wrong with them on top. -/
private theorem supplyFailures_of_fits {stored : NameMap Raw} {env : Environment}
    {named : NameMap Value} (hfits : ∀ supply ∈ supplies r stored env .empty d,
      ∃ value, supply.outcome = .ok value) :
    supplyFailures d (supplies r stored env named d) =
      supplyFailures d (overrideFor named d).toList := by
  have hlower := (supplyFailures_eq_nil_iff (d := d)).mpr hfits
  unfold supplyFailures at hlower ⊢
  rw [supplies_eq_append, List.filterMap_append, hlower, List.nil_append]

/-- Overrides on a snapshot are what resolving with them gives, errors included, if no template that
is left draws on a setting that is overridden. In any case both agree, when they succeed, on all
other settings, and the templates that draw on overridden settings keep the values of the snapshot.
-/
theorem layer_agrees_with_resolve {envPrefix : String} {home : Home}
    {definitions : List Definition}
    (hbuild : Registry.build envPrefix home definitions = .ok r) {env : Environment}
    {c : Collection} {profile : Option String} {b : Settings}
    (hb : resolve r env c profile .empty = .ok b) (overrides : Overrides) :
    ((∀ d ∈ r.definitions, ¬ b.DrawsOn r overrides.Replaces d) →
      b.layer r overrides = resolve r env c profile overrides) ∧
    ∀ l s, b.layer r overrides = .ok l → resolve r env c profile overrides = .ok s →
      l.entries.map (·.name) = r.names ∧ s.entries.map (·.name) = r.names ∧
      ∀ d ∈ r.definitions,
        (¬ b.DrawsOn r overrides.Replaces d → l.get? d.name = s.get? d.name) ∧
        (b.DrawsOn r overrides.Replaces d → l.get? d.name = b.get? d.name) := by
  obtain ⟨-, h⟩ := Registry.consistent_of_build hbuild
  obtain ⟨chosen, none, hchosen, hnone, hfits, hentries⟩ := resolve_eq_ok hb
  cases hnone
  change expandTemplates r (mergedEntries r (storedValues r chosen) env .empty) = _ at hentries
  obtain ⟨horder, -, -⟩ := solves_of_expandTemplates h (map_name_mergedEntries _ _ _) hentries
  constructor
  · intro hdraws
    unfold Settings.layer resolve
    rw [hchosen]
    cases hnamed : canonicalOverrides r overrides with
    | error e => rfl
    | ok named =>
      have hsame : (b.entries.flatMap fun e =>
          (Settings.Layered.of e (Settings.overrideSupply r named e)).failures) =
          r.definitions.flatMap fun d =>
            supplyFailures d (supplies r (storedValues r chosen) env named d) := by
        rw [failures_layered h horder named]
        exact List.flatMap_congr fun d hd => (supplyFailures_of_fits (hfits d hd)).symm
      change b.layerWith (Settings.overrideSupply r named) = (do
        SettingsError.ofFailures (r.definitions.flatMap fun d =>
          supplyFailures d (supplies r (storedValues r chosen) env named d))
        let entries ← expandTemplates r (mergedEntries r (storedValues r chosen) env named)
        return ⟨entries⟩)
      rw [← hsame]
      cases hwrong : SettingsError.ofFailures (b.entries.flatMap fun e =>
          (Settings.Layered.of e (Settings.overrideSupply r named e)).failures) with
      | error e =>
        rw [Settings.layerWith_eq, hwrong]
        rfl
      | ok u =>
        have hl := Settings.layerWith_eq_ok_iff.mpr
          ⟨List.flatMap_eq_nil_iff.mp (SettingsError.ofFailures_eq_ok_iff.mp hwrong), rfl⟩
        obtain ⟨final, hfinal⟩ := exists_expanded_of_not_drawsOn h hnamed hentries hl hdraws
        have hlayered := (Settings.map_name_of_layerWith hl).trans horder
        obtain ⟨hresolved, -, -⟩ := solves_of_expandTemplates (s := ⟨final⟩) h
          (map_name_mergedEntries _ _ _) hfinal
        rw [hl, hfinal, Settings.eq_of_get?_eq h hlayered hresolved fun d hd =>
          (agrees_off_drawsOn h hnamed hentries hl hfinal hd).1 (hdraws d hd)]
        rfl
  · intro l s hl hs
    obtain ⟨named, hnamed, hl⟩ := bind_eq_ok hl
    obtain ⟨chosen', named', hchosen', hnamed', -, hfinal⟩ := resolve_eq_ok hs
    cases hchosen.symm.trans hchosen'
    cases hnamed.symm.trans hnamed'
    obtain ⟨hresolved, -, -⟩ := solves_of_expandTemplates h (map_name_mergedEntries _ _ _) hfinal
    exact ⟨(Settings.map_name_of_layerWith hl).trans horder, hresolved, fun d hd =>
      agrees_off_drawsOn h hnamed hentries hl hfinal hd⟩

/-- No template of the address settings draws on a new URL, which none refers to. -/
private theorem not_drawsOn_url (s : Settings) (url : Value) :
    ∀ d ∈ addressCatalog,
      ¬ s.DrawsOn ⟨"", none, addressCatalog⟩ (Overrides.Replaces (.ofList [("URL", url)])) d := by
  have htargets : ∀ d ∈ addressCatalog, ∀ reference ∈ d.references,
      (Registry.find? ⟨"", none, addressCatalog⟩ reference).all ("URL" ∉ ·.keys) := by
    decide +kernel
  intro d hd hdraws
  induction hdraws with
  | direct hunchanged hrefers hchanged =>
    obtain ⟨-, reference, href, hfind⟩ := hrefers
    obtain ⟨key, hkey, hcontains⟩ := hchanged
    have hother := htargets _ hd reference href
    rw [hfind, Option.all_some, decide_eq_true_eq] at hother
    have hurl : key = "URL" := by
      by_contra hne
      simp [NameMap.contains, NameMap.get?_ofList, lookup_cons_ite, hne] at hcontains
    exact hother (hurl ▸ hkey)
  | through hunchanged hrefers hdraws ih =>
    obtain ⟨-, reference, href, hfind⟩ := hrefers
    exact ih (List.mem_of_find?_eq_some hfind)

/-- A new URL on the address settings is as good as resolving with it. A new host leaves the URL as
it was made from the old one. -/
theorem layer_agrees_with_resolve_of_address :
    ∃ r url, Registry.build "" none addressCatalog = .ok r ∧ r.find? "URL" = some url ∧
      resolve r (.ofList [("PORT", "8080")]) .empty none .empty = .ok addressSettings ∧
      addressSettings.layer r (.ofList [("URL", .string "http://box/")]) =
        resolve r (.ofList [("PORT", "8080")]) .empty none
          (.ofList [("URL", .string "http://box/")]) ∧
      addressSettings.DrawsOn r (Overrides.Replaces (.ofList [("SERVER", .string "box")])) url ∧
      ∃ l s, addressSettings.layer r (.ofList [("SERVER", .string "box")]) = .ok l ∧
        resolve r (.ofList [("PORT", "8080")]) .empty none (.ofList [("SERVER", .string "box")]) =
          .ok s ∧
        s.value? "URL" = some (.string "http://box:8080/") ∧
        l.get? "URL" = addressSettings.get? "URL" ∧ l.get? "HOST" = s.get? "HOST" := by
  let r : Registry := ⟨"", none, addressCatalog⟩
  let renamed : Overrides := .ofList [("SERVER", .string "box")]
  let url := addressCatalog[0]
  let address := addressCatalog[1]
  let host := addressCatalog[2]
  have hurl : addressSettings.RefersTo r url address :=
    ⟨⟨_, List.mem_cons_self, _, rfl, rfl, rfl⟩, "ADDRESS", by decide +kernel, rfl⟩
  have haddress : addressSettings.RefersTo r address host :=
    ⟨⟨_, List.mem_cons_of_mem _ List.mem_cons_self, _, rfl, rfl, rfl⟩, "SERVER",
      by decide +kernel, rfl⟩
  have hhost : renamed.Replaces host := ⟨"SERVER", by decide +kernel, by decide +kernel⟩
  have hunchanged : ¬ renamed.Replaces url ∧ ¬ renamed.Replaces address := by
    unfold Overrides.Replaces
    decide +kernel
  have hdraws : addressSettings.DrawsOn r renamed.Replaces url :=
    .through hunchanged.1 hurl (.direct hunchanged.2 haddress hhost)
  have hb : resolve r (.ofList [("PORT", "8080")]) .empty none .empty = .ok addressSettings := by
    decide +kernel
  have hl : addressSettings.layer r renamed = .ok
      ⟨[⟨"URL", some (.string "http://localhost:8080/"), .default⟩,
        ⟨"ADDRESS", some (.string "localhost:8080"), .default⟩,
        ⟨"HOST", some (.string "box"), .override⟩,
        ⟨"PORT", some (.integer 8080), .environment⟩]⟩ := by decide +kernel
  have hs : resolve r (.ofList [("PORT", "8080")]) .empty none renamed = .ok
      ⟨[⟨"URL", some (.string "http://box:8080/"), .default⟩,
        ⟨"ADDRESS", some (.string "box:8080"), .default⟩,
        ⟨"HOST", some (.string "box"), .override⟩,
        ⟨"PORT", some (.integer 8080), .environment⟩]⟩ := by decide +kernel
  have hsame := (layer_agrees_with_resolve build_addressCatalog hb _).1
    (not_drawsOn_url _ (.string "http://box/"))
  obtain ⟨-, -, hagree⟩ := (layer_agrees_with_resolve build_addressCatalog hb renamed).2 _ _ hl hs
  refine ⟨r, url, build_addressCatalog, rfl, hb, hsame, hdraws, _, _, hl, hs, rfl, ?_, ?_⟩
  · exact (hagree url List.mem_cons_self).2 hdraws
  · have hmem : host ∈ r.definitions :=
      List.mem_cons_of_mem _ (List.mem_cons_of_mem _ List.mem_cons_self)
    exact (hagree host hmem).1 fun hother => hother.not_changed hhost

end LayeredSettings
