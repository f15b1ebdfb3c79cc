import LayeredSettings.Proofs.Settings.Layering
import LayeredSettings.Proofs.Settings.Precedence

/-!
# Layering a profile on a snapshot

A profile can be put on a snapshot below what is there from the environment and from overrides. The
result is what resolving with the profile gives, except for template defaults that refer to a
setting that the profile supplies.
-/

namespace LayeredSettings

variable {r : Registry} {d : Definition}

/-- The value of a setting comes from the profile. -/
def Settings.FromProfile (s : Settings) (d : Definition) : Prop :=
  ∃ e, s.get? d.name = some e ∧ e.source = .profile

/-- What stored values under the settings' own names supply for a setting. -/
def profileFor (r : Registry) (stored : NameMap Raw) (d : Definition) : Option Supply :=
  (stored.get? d.name).map fun raw => ⟨.profile, d.cast r.home raw⟩

/-- A stored value that fits is supplied as what it gives. -/
theorem eq_of_profileFor {stored : NameMap Raw} {supply : Supply} {value : Value}
    (hsupply : profileFor r stored d = some supply) (hvalue : supply.outcome = .ok value) :
    supply = ⟨.profile, .ok value⟩ := by
  obtain ⟨raw, -, rfl⟩ := Option.map_eq_some_iff.mp hsupply
  rw [← hvalue]

/-- Stored values come below what the other layers supply. -/
theorem supplies_eq_profile_append (stored : NameMap Raw) (env : Environment)
    (named : NameMap Value) : supplies r stored env named d =
      (profileFor r stored d).toList ++ supplies r .empty env named d := by
  unfold supplies profileFor
  simp

/-- Without a profile all that is supplied comes from the environment or from an override. -/
theorem source_of_mem_supplies {env : Environment} {named : NameMap Value} {supply : Supply}
    (hmem : supply ∈ supplies r .empty env named d) :
    supply.source = .environment ∨ supply.source = .override := by
  unfold supplies at hmem
  simp only [NameMap.get?_empty, Option.map_none, Option.toList_none, List.nil_append,
    List.mem_append, Option.mem_toList] at hmem
  rcases hmem with hmem | hmem
  · obtain ⟨text, -, rfl⟩ := Option.map_eq_some_iff.mp hmem
    exact Or.inl rfl
  · obtain ⟨value, -, rfl⟩ := Option.map_eq_some_iff.mp hmem
    exact Or.inr rfl

/-- Of supplied values that fit the last counts, whatever lies below it. -/
theorem mergedEntry_append (d : Definition) (lower : List Supply) {upper : List Supply}
    (hfits : ∀ supply ∈ upper, ∃ value, supply.outcome = .ok value) (hne : upper ≠ []) :
    mergedEntry d (lower ++ upper) = mergedEntry d upper ∧
      ∃ supply ∈ upper, (mergedEntry d upper).source = supply.source := by
  obtain ⟨below, ⟨source, outcome⟩, rfl⟩ := (List.eq_nil_or_concat' upper).resolve_left hne
  have hmem : ⟨source, outcome⟩ ∈ below ++ [⟨source, outcome⟩] :=
    List.mem_append_right _ List.mem_cons_self
  obtain ⟨value, rfl⟩ : ∃ value, outcome = .ok value := hfits _ hmem
  rw [← List.append_assoc, mergedEntry_concat, mergedEntry_concat]
  exact ⟨rfl, _, hmem, rfl⟩

/-- What stored values supply for an entry is what they supply for its setting, if the entry comes
from no higher layer. -/
theorem profileSupply_eq (h : r.Consistent) (hd : d ∈ r.definitions) (stored : NameMap Raw)
    {e : Entry} (hname : e.name = d.name) : Settings.profileSupply r stored e =
      if e.source = .default ∨ e.source = .profile then
        (profileFor r stored d).map fun supply => (d, supply)
      else none := by
  have hfind : r.find? e.name = some d :=
    h.find?_eq_some_iff.mpr ⟨hd, hname ▸ List.mem_cons_self⟩
  unfold Settings.profileSupply profileFor
  by_cases hsource : e.source = .default ∨ e.source = .profile
  · have hguard : guard (f := Option) (e.source = .default ∨ e.source = .profile) = some () :=
      if_pos hsource
    rw [if_pos hsource, hguard, hfind, hname]
    cases stored.get? d.name <;> rfl
  · have hguard : guard (f := Option) (e.source = .default ∨ e.source = .profile) = none :=
      if_neg hsource
    rw [if_neg hsource, hguard]
    rfl

section Merged

variable {stored : NameMap Raw} {env : Environment} {named : NameMap Value} {b s l : Settings}
  (h : r.Consistent)
  (hfits : ∀ d ∈ r.definitions, ∀ supply ∈ supplies r stored env named d,
    ∃ value, supply.outcome = .ok value)
include hfits

/-- Either only the profile supplies a value for a setting, or the profile makes no difference to
it. -/
private theorem merged_cases (hd : d ∈ r.definitions) :
    (∃ value, profileFor r stored d = some ⟨.profile, .ok value⟩ ∧
      (mergedEntry d (supplies r .empty env named d)).source = .default ∧
      mergedEntry d (supplies r stored env named d) = ⟨d.name, some value, .profile⟩) ∨
    (mergedEntry d (supplies r stored env named d) =
      mergedEntry d (supplies r .empty env named d) ∧
      (mergedEntry d (supplies r .empty env named d)).source ≠ .profile ∧
      (profileFor r stored d = none ∨
        (mergedEntry d (supplies r .empty env named d)).source ≠ .default)) := by
  have hfits := hfits d hd
  rw [supplies_eq_profile_append stored] at hfits ⊢
  by_cases hupper : supplies r .empty env named d = []
  · rw [hupper, List.append_nil] at hfits ⊢
    cases hprofile : profileFor r stored d with
    | none => exact Or.inr ⟨rfl, by simp, Or.inl rfl⟩
    | some supply =>
      obtain ⟨value, hvalue⟩ := hfits supply (by simp [hprofile])
      rw [eq_of_profileFor hprofile hvalue]
      exact Or.inl ⟨value, rfl, d.defaultEntry_source, mergedEntry_concat d [] .profile value⟩
  · obtain ⟨hmerged, supply, hsupply, hsource⟩ := mergedEntry_append d
      (profileFor r stored d).toList
      (fun supply hmem => hfits supply (List.mem_append_right _ hmem)) hupper
    rw [hmerged, hsource]
    refine Or.inr ⟨rfl, ?_⟩
    rcases source_of_mem_supplies hsupply with henv | hoverride
    · simp [henv]
    · simp [hoverride]

variable (hb : expandTemplates r (mergedEntries r .empty env named) = .ok b.entries)
include h hb

/-- The values of the profile fit where they are put on the snapshot. -/
private theorem exists_layered : ∃ l, b.layerWith (Settings.profileSupply r stored) = .ok l := by
  obtain ⟨horder, -, -⟩ := solves_of_expandTemplates h (map_name_mergedEntries _ _ _) hb
  refine ⟨_, Settings.layerWith_eq_ok_iff.mpr ⟨fun e he => ?_, rfl⟩⟩
  have hmem : e.name ∈ r.names := horder ▸ List.mem_map_of_mem he
  obtain ⟨d, hd, hname⟩ := List.mem_map.mp hmem
  rw [profileSupply_eq h hd stored hname.symm]
  split
  · cases hprofile : profileFor r stored d with
    | none => rfl
    | some supply =>
      refine supplyFailures_eq_nil_iff.mpr fun other hother => ?_
      rw [List.mem_singleton.mp hother]
      refine hfits d hd supply ?_
      rw [supplies_eq_profile_append stored, hprofile]
      exact List.mem_cons_self
  · rfl

variable (hs : expandTemplates r (mergedEntries r stored env named) = .ok s.entries)
  (hl : b.layerWith (Settings.profileSupply r stored) = .ok l)
include hs hl

/-- Either a setting takes the value of the profile on the snapshot and in the resolution, or it is
as it was on the snapshot, and the profile makes no difference to its merged entry. -/
private theorem layered_cases (hd : d ∈ r.definitions) :
    (s.FromProfile d ∧ l.get? d.name = s.get? d.name) ∨
    (¬ s.FromProfile d ∧ l.get? d.name = b.get? d.name ∧
      (Settings.mk (mergedEntries r stored env named)).get? d.name =
        (Settings.mk (mergedEntries r .empty env named)).get? d.name) := by
  obtain ⟨horder, -, -⟩ := solves_of_expandTemplates h (map_name_mergedEntries _ _ _) hb
  obtain ⟨e, he, hname⟩ := Settings.exists_get?_of_names horder hd
  have hsource := source_of_expanded h hb hd he
  rw [Settings.get?_of_layerWith hl, he, Option.map_some, profileSupply_eq h hd stored hname]
  rcases merged_cases hfits hd with
    ⟨value, hprofile, hdefault, hmerged⟩ | ⟨hmerged, hnot, hnone⟩
  · have hclosed : ¬ Expansion.isOpen (mergedEntries r stored env named) d :=
      not_isOpen_mergedEntries h hd (by simp [hmerged])
    have hheld : s.get? d.name = some ⟨d.name, some value, .profile⟩ := by
      rw [get?_of_not_isOpen h (map_name_mergedEntries _ _ _) hs hd hclosed,
        get?_mergedEntries h hd, hmerged]
    refine Or.inl ⟨⟨_, hheld, rfl⟩, ?_⟩
    rw [if_pos (Or.inl (hsource.trans hdefault)), hprofile, hheld, ← hname]
    rfl
  · refine Or.inr ⟨?_, ?_, ?_⟩
    · rintro ⟨f, hf, hfsource⟩
      rw [source_of_expanded h hs hd hf, hmerged] at hfsource
      exact hnot hfsource
    · rcases hnone with hnone | habove
      · rw [hnone, Option.map_none, ite_self]
        rfl
      · rw [← hsource] at hnot habove
        rw [if_neg (not_or.mpr ⟨habove, hnot⟩)]
        rfl
    · rw [get?_mergedEntries h hd, get?_mergedEntries h hd, hmerged]

end Merged

/-- If resolving succeeds without a profile and with one, the profile can be put on the snapshot
resolved without it. This gives what resolving with the profile gives, except that templates keep
the values of the snapshot if they draw on settings that come from the profile. -/
theorem layerProfile_agrees_with_resolve {envPrefix : String} {home : Home}
    {definitions : List Definition}
    (hbuild : Registry.build envPrefix home definitions = .ok r) {env : Environment}
    {c : Collection} (hactive : c.active = none) {name : String} {p : Profile}
    (hmember : c.get? name = some p) {overrides : Overrides} {b s : Settings}
    (hb : resolve r env c none overrides = .ok b)
    (hs : resolve r env c (some name) overrides = .ok s) :
    ∃ l, b.layerProfile r p = .ok l ∧
      l.entries.map (·.name) = r.names ∧ s.entries.map (·.name) = r.names ∧
      ∀ d ∈ r.definitions,
        (¬ s.DrawsOn r s.FromProfile d → l.get? d.name = s.get? d.name) ∧
        (s.DrawsOn r s.FromProfile d → l.get? d.name = b.get? d.name) := by
  obtain ⟨-, h⟩ := Registry.consistent_of_build hbuild
  obtain ⟨nothing, named, hnothing, hnamed, -, hb⟩ := resolve_eq_ok hb
  obtain ⟨chosen, named', hchosen, hnamed', hfits, hs⟩ := resolve_eq_ok hs
  cases hnamed.symm.trans hnamed'
  have hnone : nothing = none := by
    cases selects_of_chosenProfile hnothing with
    | active hsome => simp [Collection.activeProfile?, Collection.activeName?, hactive] at hsome
    | nothing _ => rfl
  have hsome : chosen = some p := by
    cases selects_of_chosenProfile hchosen with
    | named hfound => rw [← hmember, hfound]
  subst hnone hsome
  change expandTemplates r (mergedEntries r .empty env named) = _ at hb
  change expandTemplates r (mergedEntries r (p.effective r) env named) = _ at hs
  obtain ⟨l, hl⟩ := exists_layered h hfits hb
  obtain ⟨horder, -, -⟩ := solves_of_expandTemplates h (map_name_mergedEntries _ _ _) hb
  obtain ⟨hresolved, -, -⟩ := solves_of_expandTemplates h (map_name_mergedEntries _ _ _) hs
  refine ⟨l, hl, (Settings.map_name_of_layerWith hl).trans horder, hresolved, ?_⟩
  intro d hd
  have hcases {e : Definition} (he : e ∈ r.definitions) := layered_cases h hfits hb hs hl he
  rcases hcases hd with ⟨hfrom, hsame⟩ | ⟨hnot, hkept, -⟩
  · exact ⟨fun _ => hsame, fun hdraws => absurd hfrom hdraws.not_changed⟩
  · refine ⟨fun hdraws => ?_, fun _ => hkept⟩
    rw [hkept]
    refine (Settings.get?_eq_of_not_drawsOn h (map_name_mergedEntries _ _ _)
      (map_name_mergedEntries _ _ _) hs hb (fun e he hunchanged => ?_) hd hnot hdraws).symm
    rcases hcases he with ⟨hfrom, -⟩ | ⟨-, -, hmerged⟩
    · exact absurd hfrom hunchanged
    · exact hmerged

/-- A profile with a port and a host, the latter under an old name and shadowed by the environment.
The address keeps the port that it was made with. -/
theorem layerProfile_agrees_with_resolve_of_address :
    ∃ r address host p b s l, Registry.build "" none addressCatalog = .ok r ∧
      r.find? "ADDRESS" = some address ∧ r.find? "HOST" = some host ∧
      Collection.get? ⟨[p], none⟩ "default" = some p ∧
      resolve r (.ofList [("HOST", "box")]) ⟨[p], none⟩ none .empty = .ok b ∧
      resolve r (.ofList [("HOST", "box")]) ⟨[p], none⟩ (some "default") .empty = .ok s ∧
      b.value? "ADDRESS" = some (.string "box:80") ∧
      s.value? "ADDRESS" = some (.string "box:8080") ∧
      s.DrawsOn r s.FromProfile address ∧ ¬ s.DrawsOn r s.FromProfile host ∧
      b.layerProfile r p = .ok l ∧
      l.get? "ADDRESS" = b.get? "ADDRESS" ∧ l.get? "HOST" = s.get? "HOST" := by
  let r : Registry := ⟨"", none, addressCatalog⟩
  let p : Profile := ⟨Collection.defaultName,
    .ofList [("PORT", .integer 8080), ("SERVER", .text "db")]⟩
  let s : Settings := ⟨[⟨"URL", some (.string "http://box:8080/"), .default⟩,
    ⟨"ADDRESS", some (.string "box:8080"), .default⟩,
    ⟨"HOST", some (.string "box"), .environment⟩, ⟨"PORT", some (.integer 8080), .profile⟩]⟩
  let address := addressCatalog[1]
  let host := addressCatalog[2]
  let port := addressCatalog[3]
  have hmember : Collection.get? ⟨[p], none⟩ "default" = some p := rfl
  have hb : resolve r (.ofList [("HOST", "box")]) ⟨[p], none⟩ none .empty = .ok
      ⟨[⟨"URL", some (.string "http://box:80/"), .default⟩,
        ⟨"ADDRESS", some (.string "box:80"), .default⟩,
        ⟨"HOST", some (.string "box"), .environment⟩,
        ⟨"PORT", some (.integer 80), .default⟩]⟩ := by decide +kernel
  have hs : resolve r (.ofList [("HOST", "box")]) ⟨[p], none⟩ (some "default") .empty = .ok s := by
    decide +kernel
  have hport : s.FromProfile port := ⟨_, rfl, rfl⟩
  have haddress : ¬ s.FromProfile address := by
    rintro ⟨e, he, hsource⟩
    cases he
    cases hsource
  have hrefers : s.RefersTo r address port :=
    ⟨⟨_, List.mem_cons_of_mem _ List.mem_cons_self, _, rfl, rfl, rfl⟩, "PORT",
      by decide +kernel, rfl⟩
  have hdraws : s.DrawsOn r s.FromProfile address := .direct haddress hrefers hport
  have hhost : ¬ s.DrawsOn r s.FromProfile host := by
    have hnone : ∀ target, ¬ s.RefersTo r host target := by
      rintro target ⟨⟨e, he, template, -, -, hdefault⟩, -⟩
      cases hdefault
    intro hother
    cases hother with
    | direct _ hrefers _ => exact hnone _ hrefers
    | through _ hrefers _ => exact hnone _ hrefers
  obtain ⟨l, hl, -, -, hagree⟩ :=
    layerProfile_agrees_with_resolve build_addressCatalog rfl hmember hb hs
  refine ⟨r, address, host, p, _, s, l, build_addressCatalog, rfl, rfl, hmember, hb, hs, rfl, rfl,
    hdraws, hhost, hl, ?_, ?_⟩
  · exact (hagree address (List.mem_cons_of_mem _ List.mem_cons_self)).2 hdraws
  · have hmem : host ∈ r.definitions :=
      List.mem_cons_of_mem _ (List.mem_cons_of_mem _ List.mem_cons_self)
    exact (hagree host hmem).1 hhost

end LayeredSettings
