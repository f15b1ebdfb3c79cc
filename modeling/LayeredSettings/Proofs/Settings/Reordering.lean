import LayeredSettings.Proofs.Registry.Reordering
import LayeredSettings.Proofs.Settings.Layering

/-!
# Resolving with the definitions in another order

What is read for a setting does not depend on where its definition stands, and a round fills the
same templates in every order. So a resolution comes to the same outcome, up to the order in which
entries, failures and the names of a cycle are listed.
-/

namespace LayeredSettings

/-- Two outcomes that differ in no more than an order: results that are alike, the same failures in
some order, the names of one cycle in some order, or one and the same error. -/
inductive SameUpToOrder {α : Type} (alike : α → α → Prop) :
    Except SettingsError α → Except SettingsError α → Prop
  | ok {a b : α} (h : alike a b) : SameUpToOrder alike (.ok a) (.ok b)
  | invalid {failures others : List Failure} (h : failures.Perm others) :
      SameUpToOrder alike (.error (.validation failures)) (.error (.validation others))
  | cyclic {names others : List String} (h : names.Perm others) :
      SameUpToOrder alike (.error (RegistryFault.cyclicTemplates names).toError)
        (.error (RegistryFault.cyclicTemplates others).toError)
  | refused (e : SettingsError) : SameUpToOrder alike (.error e) (.error e)

namespace SameUpToOrder

variable {α β : Type} {alike : α → α → Prop} {alike' : β → β → Prop}

/-- An outcome is the same as itself if results are like themselves. -/
theorem refl (hrefl : ∀ a, alike a a) (x : Except SettingsError α) : SameUpToOrder alike x x := by
  cases x with
  | error e => exact .refused e
  | ok a => exact .ok (hrefl a)

/-- Calculations that go on alike from results that are alike come to the same outcome. -/
theorem bind {x y : Except SettingsError α} {f g : α → Except SettingsError β}
    (hxy : SameUpToOrder alike x y)
    (hfg : ∀ a b, x = .ok a → alike a b → SameUpToOrder alike' (f a) (g b)) :
    SameUpToOrder alike' (x >>= f) (y >>= g) := by
  cases hxy with
  | ok h => exact hfg _ _ rfl h
  | invalid h => exact .invalid h
  | cyclic h => exact .cyclic h
  | refused e => exact .refused e

/-- The same failures are reported in some order, or there are none. -/
theorem ofFailures {failures others : List Failure} (h : failures.Perm others) :
    SameUpToOrder Eq (SettingsError.ofFailures failures) (SettingsError.ofFailures others) := by
  unfold SettingsError.ofFailures
  rw [h.isEmpty_eq]
  split
  · exact .ok rfl
  · exact .invalid h

end SameUpToOrder

/-- Snapshots of the same entries in some order, so that the same is found under every name. -/
structure Settings.Reorders (s t : Settings) : Prop where
  /-- The entries are the same up to their order. -/
  perm : s.entries.Perm t.entries
  /-- A name stands for the same entry. -/
  get?_eq : t.get? = s.get?

/-- Entries of which no two have one name are found in every order. -/
theorem Settings.get?_eq_of_perm {entries others : List Entry} (hperm : entries.Perm others)
    (hnodup : (entries.map (·.name)).Nodup) :
    (Settings.mk others).get? = (Settings.mk entries).get? := by
  funext name
  refine (List.find?_eq_find?_of_perm hperm ?_).symm
  rintro e ⟨he, hename⟩ f ⟨hf, hfname⟩
  have hnames : e.name = f.name := by simp_all
  exact List.inj_on_of_nodup_map hnodup he hf hnames

variable {r r' : Registry}

namespace Expansion

variable {waiting others ready readyOthers : List Definition} {entries entries' : List Entry}
  {failures failures' : List Failure}

/-- With nothing waiting the failures of all rounds are reported. -/
theorem rounds_nil (r : Registry) (entries : List Entry) (failures : List Failure) :
    rounds r [] entries failures = (do SettingsError.ofFailures failures; return entries) := by
  rw [rounds]

/-- A round with nothing to fill ends in a cycle. -/
theorem rounds_of_stuck (hwaits : waiting ≠ []) (hstuck : waiting.filter (isReady r waiting) = []) :
    rounds r waiting entries failures =
      .error (RegistryFault.cyclicTemplates (waiting.map (·.name))).toError := by
  cases waiting with
  | nil => exact absurd rfl hwaits
  | cons d rest => rw [rounds, dif_pos hstuck]

/-- A round fills the templates that are ready, and the next round is about the others. -/
theorem rounds_of_ready (hready : waiting.filter (isReady r waiting) ≠ []) :
    rounds r waiting entries failures =
      rounds r (waiting.filter (!isReady r waiting ·))
        (fillReady r (waiting.filter (isReady r waiting)) entries)
        (failures ++ readyFailures r (waiting.filter (isReady r waiting)) entries) := by
  cases waiting with
  | nil => exact absurd rfl hready
  | cons d rest => rw [rounds, dif_neg hready]

section Reordered

variable (h : r.Consistent) (hr : r.Reorders r')
include h hr

/-- A template is ready in every order or in none. -/
theorem isReady_eq_of_perm (hperm : waiting.Perm others) :
    isReady r' others = isReady r waiting := by
  funext d
  unfold isReady
  simp only [hr.find?_eq h, hperm.all_eq]

variable (hperm : entries.Perm entries') (hnames : entries.map (·.name) = r.names)
include hperm hnames

/-- A template gives the same value in every order. -/
theorem filledDefault_eq_of_perm : filledDefault r' entries' = filledDefault r entries := by
  funext d
  unfold filledDefault renderedValue Settings.value?
  rw [hr.find?_eq h, hr.home_eq,
    Settings.get?_eq_of_perm hperm (hnames ▸ h.nodup_names)]

/-- The same is wrong with the values of the ready templates, up to its order. -/
theorem readyFailures_perm (hready : ready.Perm readyOthers) :
    (readyFailures r ready entries).Perm (readyFailures r' readyOthers entries') := by
  unfold readyFailures
  rw [filledDefault_eq_of_perm h hr hperm hnames]
  exact hready.filterMap _

/-- A round fills the same entries with the same values. -/
theorem fillReady_perm (hready : ready.Perm readyOthers) (hknown : ∀ d ∈ ready, d ∈ r.definitions) :
    (fillReady r ready entries).Perm (fillReady r' readyOthers entries') := by
  have hfind (name : String) :
      readyOthers.find? (·.name = name) = ready.find? (·.name = name) := by
    refine (List.find?_eq_find?_of_perm hready ?_).symm
    rintro d ⟨hd, hdname⟩ e ⟨he, hename⟩
    exact h.eq_of_name_eq (hknown d hd) (hknown e he) (by simp_all)
  have hfill : fillEntry r' readyOthers entries' = fillEntry r ready entries := by
    funext e
    unfold fillEntry
    rw [hfind, filledDefault_eq_of_perm h hr hperm hnames]
  rw [fillReady_eq_map, fillReady_eq_map, hfill]
  exact hperm.map _

end Reordered

/-- The rounds come to the same outcome from the same templates, entries and failures in any order.
-/
theorem rounds_sameUpToOrder (h : r.Consistent) (hr : r.Reorders r')
    (hwaiting : ∀ d ∈ waiting, d ∈ r.definitions) (hwaits : waiting.Perm others)
    (hnames : entries.map (·.name) = r.names) (hperm : entries.Perm entries')
    (hfailures : failures.Perm failures') :
    SameUpToOrder List.Perm (rounds r waiting entries failures)
      (rounds r' others entries' failures') := by
  -- Every round has the same templates ready on both sides, so the rounds go in step.
  revert others entries' failures'
  fun_induction rounds r waiting entries failures with
  | case1 entries failures =>
    intro others entries' failures' hwaits hperm hfailures
    rw [List.nil_perm.mp hwaits, rounds_nil]
    exact (SameUpToOrder.ofFailures hfailures).bind fun _ _ _ _ => .ok hperm
  | case2 entries failures d rest hstuck =>
    intro others entries' failures' hwaits hperm hfailures
    have hready := isReady_eq_of_perm h hr hwaits
    have hstuck' : others.filter (isReady r' others) = [] := by
      rw [hready]
      exact List.nil_perm.mp (hstuck ▸ hwaits.filter _)
    have hne : others ≠ [] := by
      rintro rfl
      exact List.cons_ne_nil d rest hwaits.eq_nil
    rw [rounds_of_stuck hne hstuck']
    exact .cyclic (hwaits.map _)
  | case3 entries failures d rest hsome ready ih =>
    intro others entries' failures' hwaits hperm hfailures
    have hready := isReady_eq_of_perm h hr hwaits
    have hfirst : ready.Perm (others.filter (isReady r' others)) := by
      rw [hready]
      exact hwaits.filter _
    have hlater : ((d :: rest).filter (!isReady r (d :: rest) ·)).Perm
        (others.filter (!isReady r' others ·)) := by
      rw [hready]
      exact hwaits.filter _
    have hknown : ∀ w ∈ ready, w ∈ r.definitions := fun w hw =>
      hwaiting w (List.mem_of_mem_filter hw)
    have hsome' : others.filter (isReady r' others) ≠ [] := fun hnone =>
      hsome (hnone ▸ hfirst).eq_nil
    rw [rounds_of_ready hsome']
    exact ih (fun w hw => hwaiting w (List.mem_of_mem_filter hw))
      ((map_name_fillReady r ready entries).trans hnames) hlater
      (fillReady_perm h hr hperm hnames hfirst hknown)
      (hfailures.append (readyFailures_perm h hr hperm hnames hfirst))

end Expansion

section Layers

variable (h : r.Consistent) (hr : r.Reorders r')
include h hr

/-- Overrides come under the same names in every order of the definitions. -/
theorem canonicalOverrides_eq_of_reorders : canonicalOverrides r' = canonicalOverrides r := by
  funext overrides
  unfold canonicalOverrides Registry.lookup
  rw [hr.find?_eq h]

/-- Stored values come under the same names in every order of the definitions. -/
theorem storedValues_eq_of_reorders : storedValues r' = storedValues r := by
  funext p
  have hadd : Profile.addEffective r' = Profile.addEffective r := by
    funext values entry
    unfold Profile.addEffective
    rw [hr.find?_eq h]
  unfold storedValues Profile.effective
  rw [hadd]

omit h in
/-- The layers supply the same for a setting in every order of the definitions. -/
theorem supplies_eq_of_reorders : supplies r' = supplies r := by
  funext stored env named d
  unfold supplies Environment.lookup?
  rw [hr.home_eq, hr.variableNames_eq]

/-- Templates are filled to the same outcome among the same entries in some order. -/
theorem expandTemplates_sameUpToOrder {entries entries' : List Entry}
    (hnames : entries.map (·.name) = r.names) (hperm : entries.Perm entries') :
    SameUpToOrder List.Perm (expandTemplates r entries) (expandTemplates r' entries') := by
  have hopen : Expansion.isOpen entries' = Expansion.isOpen entries := by
    funext d
    unfold Expansion.isOpen
    rw [hperm.any_eq]
  unfold expandTemplates
  rw [hopen]
  exact Expansion.rounds_sameUpToOrder h hr (fun d hd => List.mem_of_mem_filter hd)
    (hr.perm.filter _) hnames hperm (.refl [])

end Layers

/-- A resolution with the definitions in another order comes to the same outcome. -/
theorem resolve_sameUpToOrder (h : r.Consistent) (hr : r.Reorders r') (env : Environment)
    (c : Collection) (profile : Option String) (overrides : Overrides) :
    SameUpToOrder Settings.Reorders (resolve r env c profile overrides)
      (resolve r' env c profile overrides) := by
  unfold resolve
  rw [canonicalOverrides_eq_of_reorders h hr, storedValues_eq_of_reorders h hr,
    supplies_eq_of_reorders hr]
  refine (SameUpToOrder.refl (fun _ => rfl) _).bind ?_
  rintro chosen _ - rfl
  refine (SameUpToOrder.refl (fun _ => rfl) _).bind ?_
  rintro named _ - rfl
  refine (SameUpToOrder.ofFailures (hr.perm.flatMap fun _ _ => .refl _)).bind fun _ _ _ _ => ?_
  have hnames := map_mergedEntry_name (r := r) (supplies r (storedValues r chosen) env named)
  refine (expandTemplates_sameUpToOrder h hr hnames (hr.perm.map _)).bind ?_
  intro entries entries' hok hperm
  obtain ⟨horder, -, -⟩ := solves_of_expandTemplates (s := ⟨entries⟩) h hnames hok
  exact .ok ⟨hperm, Settings.get?_eq_of_perm hperm (horder ▸ h.nodup_names)⟩

/-- Definitions can be built in every order or in none, and whatever order they are in, resolutions
from the same sources give every name the same value from the same layer or fail with the same
error, up to the order in which an error lists its failures or the names of a cycle. -/
theorem resolve_order_independent {definitions reordered : List Definition}
    (hperm : definitions.Perm reordered) (envPrefix : String) (home : Home) :
    ((∃ r, Registry.build envPrefix home definitions = .ok r) ↔
        ∃ r', Registry.build envPrefix home reordered = .ok r') ∧
      ∀ r r', Registry.build envPrefix home definitions = .ok r →
        Registry.build envPrefix home reordered = .ok r' →
        ∀ env c profile overrides, SameUpToOrder Settings.Reorders
          (resolve r env c profile overrides) (resolve r' env c profile overrides) := by
  refine ⟨⟨Registry.exists_build_of_perm hperm, Registry.exists_build_of_perm hperm.symm⟩, ?_⟩
  intro r r' hbuild hbuild' env c profile overrides
  obtain ⟨rfl, h⟩ := Registry.consistent_of_build hbuild
  obtain ⟨rfl, -⟩ := Registry.consistent_of_build hbuild'
  have hr : Registry.Reorders ⟨envPrefix, home, definitions⟩ ⟨envPrefix, home, reordered⟩ :=
    ⟨rfl, rfl, hperm⟩
  exact resolve_sameUpToOrder h hr env c profile overrides

/-- The address settings come out alike from the catalog and from its reverse. -/
theorem resolve_order_independent_of_address :
    ∃ r r', addressCatalog.Perm addressCatalog.reverse ∧
      Registry.build "" none addressCatalog = .ok r ∧
      Registry.build "" none addressCatalog.reverse = .ok r' ∧
      resolve r (.ofList [("PORT", "8080")]) .empty none .empty = .ok addressSettings ∧
      SameUpToOrder Settings.Reorders
        (resolve r (.ofList [("PORT", "8080")]) .empty none .empty)
        (resolve r' (.ofList [("PORT", "8080")]) .empty none .empty) := by
  have hperm : addressCatalog.Perm addressCatalog.reverse := (List.reverse_perm _).symm
  obtain ⟨hbuilds, hsame⟩ := resolve_order_independent hperm "" none
  obtain ⟨r', hbuild'⟩ := hbuilds.mp ⟨_, build_addressCatalog⟩
  have hok : resolve ⟨"", none, addressCatalog⟩ (.ofList [("PORT", "8080")]) .empty none .empty =
      .ok addressSettings := by decide +kernel
  exact ⟨_, r', hperm, build_addressCatalog, hbuild', hok,
    hsame _ r' build_addressCatalog hbuild' _ _ _ _⟩

end LayeredSettings
