import LayeredSettings.Proofs.Settings.Finiteness
import Mathlib.Data.List.Flatten
import Mathlib.Data.List.Perm.Basic
import Mathlib.Data.List.ProdSigma

/-!
# Every bad value is reported

Each layer may supply a value that does not fit its setting. A resolution reports all of them at
once, those included that a higher layer would have replaced, in the order of the registry and for
each setting from the lowest layer up, and it reports nothing else before it fills templates. A
profile that is missing comes first, then a key that no setting answers to.
-/

namespace LayeredSettings

variable {r : Registry} {d : Definition} {env : Environment} {chosen : Option Profile}
  {overrides : Overrides}

/-- The layers in which values are supplied, the lowest first. -/
def Source.supplying : List Source := [.profile, .environment, .override]

/-- A layer supplies a value for a setting that does not fit, for a reason. -/
inductive Definition.Refuses (r : Registry) (env : Environment) (chosen : Option Profile)
    (overrides : Overrides) (d : Definition) : Source → Reason → Prop
  | profile {p : Profile} {raw : Raw} {reason : Reason} (hchosen : chosen = some p)
      (hraw : p.Stores d raw) (hcast : d.cast r.home raw = .error reason) :
      Definition.Refuses r env chosen overrides d .profile reason
  | environment {text : String} {reason : Reason} (htext : env.Supplies r d text)
      (hcast : d.cast r.home (.text text) = .error reason) :
      Definition.Refuses r env chosen overrides d .environment reason
  | override {value : Value} {reason : Reason} (hgiven : overrides.Gives d value)
      (hcheck : d.validate value = .error reason) :
      Definition.Refuses r env chosen overrides d .override reason

/-- A value that does not fit: its setting, the layer that supplies it, and the reason. -/
structure Refusal where
  name : String
  source : Source
  reason : Reason

namespace Refusal

/-- What is told of a refusal, which is not the layer. -/
def failure (x : Refusal) : Failure := ⟨x.name, x.reason⟩

/-- The setting and the layer of a refusal. -/
def place (x : Refusal) : String × Source := (x.name, x.source)

end Refusal

/-- All settings with all layers that may supply them: the settings in the order of the registry,
and for each the layers from the lowest up. -/
def Registry.places (r : Registry) : List (String × Source) := r.names.product Source.supplying

/-- A list of refusals holds exactly the values that do not fit, in order. -/
structure Reports (r : Registry) (env : Environment) (chosen : Option Profile)
    (overrides : Overrides) (report : List Refusal) : Prop where
  /-- Settings follow one another as in the registry, and for each the layers from the lowest up. -/
  ordered : (report.map Refusal.place).Sublist r.places
  /-- What is in the list is refused, and all that is refused is in the list. -/
  complete : ∀ x, x ∈ report ↔
    ∃ d ∈ r.definitions, x.name = d.name ∧ d.Refuses r env chosen overrides x.source x.reason

/-- A setting with a template for which no layer supplies a value. -/
structure Definition.LeftToTemplate (r : Registry) (env : Environment) (chosen : Option Profile)
    (overrides : Overrides) (d : Definition) : Prop where
  mem : d ∈ r.definitions
  template : d.template?.isSome = true
  overrides : overrides.Omits d
  env : env.Omits r d
  profile : Profile.Omits chosen d

/-- Every value that a layer supplies fits. -/
def Registry.AllFit (r : Registry) (env : Environment) (chosen : Option Profile)
    (overrides : Overrides) : Prop :=
  ∀ d ∈ r.definitions, ∀ source reason, ¬ d.Refuses r env chosen overrides source reason

/-- A template can be filled to a text that does not fit, for a reason. -/
def Definition.Misfills (r : Registry) (d : Definition) (reason : Reason) : Prop :=
  ∃ texts, d.cast r.home (.text (Template.fill texts (d.template?.getD ""))) = .error reason

/-- One override at most counts for a setting. -/
theorem Overrides.Gives.unique {value other : Value} (h : overrides.Gives d value)
    (hother : overrides.Gives d other) : value = other := by
  obtain ⟨key, hkey, hvalue, hlast⟩ := h
  obtain ⟨key', hkey', hvalue', hlast'⟩ := hother
  have hsame : key = key' := le_antisymm
    (hlast' key hkey (by simp [NameMap.contains, hvalue]))
    (hlast key' hkey' (by simp [NameMap.contains, hvalue']))
  rw [hsame, hvalue'] at hvalue
  exact (Option.some.inj hvalue).symm

/-- A layer refuses a value for one reason. -/
theorem Definition.Refuses.unique {source : Source} {reason other : Reason}
    (h : d.Refuses r env chosen overrides source reason)
    (hother : d.Refuses r env chosen overrides source other) : reason = other := by
  cases h with
  | profile hchosen hraw hcast =>
    cases hother with
    | profile hchosen' hraw' hcast' =>
      rw [Option.some.inj (hchosen.symm.trans hchosen')] at hraw
      rw [hraw.unique hraw', hcast'] at hcast
      exact (Except.error.inj hcast).symm
  | environment htext hcast =>
    cases hother with
    | environment htext' hcast' =>
      rw [Option.some.inj (htext.lookup?_eq.symm.trans htext'.lookup?_eq), hcast'] at hcast
      exact (Except.error.inj hcast).symm
  | override hgiven hcheck =>
    cases hother with
    | override hgiven' hcheck' =>
      rw [hgiven.unique hgiven', hcheck'] at hcheck
      exact (Except.error.inj hcheck).symm

/-- No place occurs twice. -/
theorem Registry.Consistent.nodup_places (h : r.Consistent) : r.places.Nodup :=
  h.nodup_names.product (by decide)

/-- There is one report. -/
theorem Reports.unique (h : r.Consistent) {report other : List Refusal}
    (hreport : Reports r env chosen overrides report)
    (hother : Reports r env chosen overrides other) : other = report := by
  have hmem : ∀ x, x ∈ other ↔ x ∈ report := fun x => by
    rw [hreport.complete, hother.complete]
  have hplaces : other.map Refusal.place = report.map Refusal.place := by
    refine (h.nodup_places.perm_iff_eq_of_sublist hother.ordered hreport.ordered).mp ?_
    refine (List.perm_ext_iff_of_nodup (hother.ordered.nodup h.nodup_places)
      (hreport.ordered.nodup h.nodup_places)).mpr fun place => ?_
    simp only [List.mem_map, hmem]
  have hsame : List.Forall₂ (· = ·) other report := by
    refine forall₂_of_map_eq hplaces fun x hx y hy hplace => ?_
    obtain ⟨d, hd, hname, hrefuses⟩ := (hother.complete x).mp hx
    obtain ⟨e, he, hname', hrefuses'⟩ := (hreport.complete y).mp hy
    obtain ⟨heq, hsource⟩ := Prod.mk.inj hplace
    rw [h.eq_of_name_eq hd he (hname.symm.trans (heq.trans hname')), hsource] at hrefuses
    obtain ⟨name, source, reason⟩ := x
    obtain ⟨name', source', reason'⟩ := y
    obtain rfl : name = name' := heq
    obtain rfl : source = source' := hsource
    obtain rfl : reason = reason' := hrefuses.unique hrefuses'
    rfl
  exact List.forall₂_eq_eq_eq ▸ hsame

/-- The refusals among what is supplied for a setting. -/
def refusals (d : Definition) (supplied : List Supply) : List Refusal :=
  supplied.filterMap fun supply =>
    match supply.outcome with
    | .ok _ => none
    | .error reason => some ⟨d.name, supply.source, reason⟩

/-- What is told of the refusals is what is wrong with what is supplied. -/
theorem map_failure_refusals (d : Definition) (supplied : List Supply) :
    (refusals d supplied).map Refusal.failure = supplyFailures d supplied := by
  unfold refusals supplyFailures
  rw [List.map_filterMap]
  refine List.filterMap_congr fun supply _ => ?_
  cases supply.outcome <;> rfl

/-- A refusal is a supplied value that does not fit. -/
theorem mem_refusals_iff {supplied : List Supply} {x : Refusal} :
    x ∈ refusals d supplied ↔ x.name = d.name ∧
      ∃ supply ∈ supplied, supply.source = x.source ∧ supply.outcome = .error x.reason := by
  unfold refusals
  rw [List.mem_filterMap]
  constructor
  · rintro ⟨⟨source, outcome⟩, hmem, hrefusal⟩
    cases outcome with
    | ok value => cases hrefusal
    | error reason =>
      obtain rfl := Option.some.inj hrefusal
      exact ⟨rfl, _, hmem, rfl, rfl⟩
  · rintro ⟨hname, supply, hmem, hsource, houtcome⟩
    refine ⟨supply, hmem, ?_⟩
    rw [houtcome, hsource, ← hname]

/-- Refusals stand in the order in which the values are supplied. -/
theorem places_refusals_sublist (d : Definition) (supplied : List Supply) :
    ((refusals d supplied).map Refusal.place).Sublist
      ((supplied.map (·.source)).map fun source => (d.name, source)) := by
  induction supplied with
  | nil => exact List.Sublist.refl []
  | cons supply rest ih =>
    unfold refusals at ih ⊢
    rw [List.filterMap_cons]
    obtain ⟨source, outcome⟩ := supply
    cases outcome with
    | ok value => exact ih.cons _
    | error reason => exact ih.cons_cons _

/-- Values are supplied from the lowest layer up. -/
theorem sources_supplies_sublist (r : Registry) (stored : NameMap Raw) (env : Environment)
    (named : NameMap Value) (d : Definition) :
    ((supplies r stored env named d).map (·.source)).Sublist Source.supplying := by
  unfold supplies
  cases stored.get? d.name <;> cases env.lookup? r d <;> cases named.get? d.name <;>
    simp [Source.supplying]

section Supplied

variable {named : NameMap Value} (h : r.Consistent) (hd : d ∈ r.definitions)
  (hnamed : canonicalOverrides r overrides = .ok named)
include h hd hnamed

/-- The values supplied for a setting that do not fit are those that a layer refuses. -/
theorem exists_refused_iff {source : Source} {reason : Reason} :
    (∃ supply ∈ supplies r (storedValues r chosen) env named d,
      supply.source = source ∧ supply.outcome = .error reason) ↔
    d.Refuses r env chosen overrides source reason := by
  unfold supplies
  simp only [List.mem_append, Option.mem_toList, Option.map_eq_some_iff]
  constructor
  · rintro ⟨supply, (⟨raw, hraw, rfl⟩ | ⟨text, htext, rfl⟩) | ⟨value, hvalue, rfl⟩, rfl, houtcome⟩
    · obtain ⟨p, hp, hstores⟩ := stores_of_get?_storedValues h hd hraw
      exact .profile hp hstores houtcome
    · exact .environment (Environment.supplies_of_lookup? htext) houtcome
    · refine .override ((get?_canonicalOverrides_eq_some_iff h hd hnamed).mp hvalue) ?_
      dsimp only at houtcome
      cases hcheck : d.validate value with
      | ok _ => simp [hcheck, Except.map] at houtcome
      | error other => simpa [hcheck, Except.map] using houtcome
  · rintro (⟨hchosen, hraw, hcast⟩ | ⟨htext, hcast⟩ | ⟨hgiven, hcheck⟩)
    · refine ⟨_, Or.inl (Or.inl ⟨_, ?_, rfl⟩), rfl, hcast⟩
      rw [hchosen]
      exact (Profile.get?_effective_eq_some_iff h hd).mpr hraw
    · exact ⟨_, Or.inl (Or.inr ⟨_, htext.lookup?_eq, rfl⟩), rfl, hcast⟩
    · refine ⟨_, Or.inr ⟨_, (get?_canonicalOverrides_eq_some_iff h hd hnamed).mpr hgiven, rfl⟩,
        rfl, ?_⟩
      rw [hcheck]
      rfl

/-- Nothing is supplied for a setting exactly if every layer omits it. -/
theorem supplies_eq_nil_iff : supplies r (storedValues r chosen) env named d = [] ↔
    overrides.Omits d ∧ env.Omits r d ∧ Profile.Omits chosen d := by
  have hprofile : (storedValues r chosen).get? d.name = none ↔ Profile.Omits chosen d := by
    constructor
    · exact omits_of_get?_storedValues h hd
    · intro homits
      refine Option.eq_none_iff_forall_ne_some.mpr fun raw hraw => ?_
      obtain ⟨p, hp, hstores⟩ := stores_of_get?_storedValues h hd hraw
      obtain ⟨key, hkey, hget⟩ := hstores.exists_key
      rw [homits p hp key hkey] at hget
      cases hget
  have henv : env.lookup? r d = none ↔ env.Omits r d := List.findSome?_eq_none_iff
  have hoverrides : named.get? d.name = none ↔ overrides.Omits d := by
    constructor
    · intro hnone key hkey
      by_contra hgiven
      have hsome := (isSome_overrideFor_iff h hd hnamed).mpr
        ⟨key, hkey, Option.isSome_iff_ne_none.mpr hgiven⟩
      simp [overrideFor, hnone] at hsome
    · exact get?_canonicalOverrides_of_absent h hd hnamed
  rw [← hprofile, ← henv, ← hoverrides]
  unfold supplies
  simp only [List.append_eq_nil_iff, Option.toList_eq_nil_iff, Option.map_eq_none_iff]
  constructor
  · rintro ⟨⟨hstored, htext⟩, hgiven⟩
    exact ⟨hgiven, htext, hstored⟩
  · rintro ⟨hgiven, htext, hstored⟩
    exact ⟨⟨hstored, htext⟩, hgiven⟩

/-- If all that is supplied for a setting fits, the setting waits for its template exactly if it has
one and no layer supplies anything. -/
theorem isOpen_mergedEntries_iff
    (hfits : ∀ supply ∈ supplies r (storedValues r chosen) env named d,
      ∃ value, supply.outcome = .ok value) :
    Expansion.isOpen (mergedEntries r (storedValues r chosen) env named) d ↔
      d.LeftToTemplate r env chosen overrides := by
  have hnodup := map_name_mergedEntries (r := r) (storedValues r chosen) env named ▸ h.nodup_names
  have hdefault : (mergedEntry d (supplies r (storedValues r chosen) env named d)).source =
      .default ↔ supplies r (storedValues r chosen) env named d = [] := by
    constructor
    · intro hsource
      by_contra hne
      obtain ⟨-, supply, hmem, heq⟩ := mergedEntry_append d [] hfits hne
      have hlayer := (sources_supplies_sublist r _ env named d).subset
        (List.mem_map_of_mem (f := (·.source)) hmem)
      rw [← heq, hsource] at hlayer
      exact absurd hlayer (by decide)
    · intro hnil
      rw [hnil, mergedEntry_nil, Definition.defaultEntry_source]
  rw [isOpen_iff_get? hnodup, get?_mergedEntries h hd]
  simp only [Option.some.injEq, exists_eq_left', hdefault, supplies_eq_nil_iff h hd hnamed]
  constructor
  · rintro ⟨htemplate, hoverrides, henv, hprofile⟩
    exact ⟨hd, htemplate, hoverrides, henv, hprofile⟩
  · rintro ⟨-, htemplate, hoverrides, henv, hprofile⟩
    exact ⟨htemplate, hoverrides, henv, hprofile⟩

end Supplied

/-- All values that the layers of a resolution supply and that do not fit, setting by setting. -/
def allRefusals (r : Registry) (stored : NameMap Raw) (env : Environment) (named : NameMap Value) :
    List Refusal :=
  r.definitions.flatMap fun d => refusals d (supplies r stored env named d)

section Report

variable {named : NameMap Value} (h : r.Consistent)
  (hnamed : canonicalOverrides r overrides = .ok named)
include h hnamed

/-- All refusals, setting by setting, are a report. -/
theorem reports_allRefusals :
    Reports r env chosen overrides (allRefusals r (storedValues r chosen) env named) where
  ordered := by
    unfold allRefusals Registry.places Registry.names List.product
    rw [List.map_flatMap, List.flatMap_map]
    refine List.Sublist.flatMap_right _ fun d _ => ?_
    exact (places_refusals_sublist d _).trans ((sources_supplies_sublist r _ env named d).map _)
  complete x := by
    unfold allRefusals
    rw [List.mem_flatMap]
    refine exists_congr fun d => and_congr_right fun hd => ?_
    rw [mem_refusals_iff, exists_refused_iff h hd hnamed]

/-- Every value that a layer supplies fits exactly if there is no refusal. -/
theorem allFit_iff : r.AllFit env chosen overrides ↔
    allRefusals r (storedValues r chosen) env named = [] := by
  have hreport : Reports r env chosen overrides _ := reports_allRefusals h hnamed
  constructor
  · intro hfits
    refine List.eq_nil_iff_forall_not_mem.mpr fun x hx => ?_
    obtain ⟨d, hd, -, hrefuses⟩ := (hreport.complete x).mp hx
    exact hfits d hd _ _ hrefuses
  · intro hnil d hd source reason hrefuses
    have hmem := (hreport.complete ⟨d.name, source, reason⟩).mpr ⟨d, hd, rfl, hrefuses⟩
    rw [hnil] at hmem
    cases hmem

end Report

/-- Failures that rounds end with are those at hand and after them those of templates that waited.
-/
theorem Expansion.rounds_eq_invalid {waiting : List Definition} {entries : List Entry}
    {failures all : List Failure}
    (hrounds : rounds r waiting entries failures = .error (.validation all)) :
    all ≠ [] ∧ ∃ later, all = failures ++ later ∧
      ∀ failure ∈ later, ∃ d ∈ waiting, failure.name = d.name ∧ d.Misfills r failure.reason := by
  fun_induction rounds r waiting entries failures with
  | case1 entries failures =>
    rcases bind_eq_error hrounds with hfailed | ⟨_, -, hdone⟩
    · obtain ⟨hne, hall⟩ := SettingsError.ofFailures_eq_error_iff.mp hfailed
      obtain rfl := SettingsError.validation.inj hall
      exact ⟨hne, [], by simp, by simp⟩
    · cases hdone
  | case2 entries failures d rest hstuck => cases hrounds
  | case3 entries failures d rest hstuck ready ih =>
    obtain ⟨hne, later, heq, hlater⟩ := ih hrounds
    refine ⟨hne, readyFailures r ready entries ++ later, by rw [heq, List.append_assoc], ?_⟩
    intro failure hfailure
    rcases List.mem_append.mp hfailure with hnow | hnext
    · obtain ⟨w, hw, hfailed⟩ := List.mem_filterMap.mp hnow
      cases hfilled : filledDefault r entries w with
      | ok value => simp [hfilled] at hfailed
      | error reason =>
        rw [hfilled] at hfailed
        cases hfailed
        exact ⟨w, List.mem_of_mem_filter hw, rfl, _, hfilled⟩
    · obtain ⟨w, hw, hcast⟩ := hlater failure hnext
      exact ⟨w, List.mem_of_mem_filter hw, hcast⟩

section Known

variable {c : Collection} {profile : Option String} {named : NameMap Value}
  (hchosen : chosenProfile c profile = .ok chosen)
  (hnamed : canonicalOverrides r overrides = .ok named)

include hchosen hnamed in
/-- With the profile and the settings of the overrides known, a resolution reports what the layers
refuse, and only if that is nothing does it fill templates. -/
theorem resolve_eq_of_known : resolve r env c profile overrides = do
    SettingsError.ofFailures
      ((allRefusals r (storedValues r chosen) env named).map Refusal.failure)
    let entries ← expandTemplates r (mergedEntries r (storedValues r chosen) env named)
    return ⟨entries⟩ := by
  unfold resolve allRefusals
  rw [hchosen, hnamed, List.map_flatMap]
  simp only [map_failure_refusals]
  rfl

variable (h : r.Consistent) (hfits : r.AllFit env chosen overrides)

include h hchosen hnamed hfits in
/-- A resolution goes on to fill templates if every value that a layer supplies fits. -/
theorem resolve_eq_of_allFit : resolve r env c profile overrides = do
    let entries ← expandTemplates r (mergedEntries r (storedValues r chosen) env named)
    return ⟨entries⟩ := by
  rw [resolve_eq_of_known hchosen hnamed, (allFit_iff h hnamed).mp hfits]
  rfl

include h hnamed hfits in
/-- The settings that wait for their templates are those with a template for which no layer supplies
a value. -/
theorem isOpen_iff_leftToTemplate (hd : d ∈ r.definitions) :
    Expansion.isOpen (mergedEntries r (storedValues r chosen) env named) d ↔
      d.LeftToTemplate r env chosen overrides := by
  refine isOpen_mergedEntries_iff h hd hnamed fun supply hsupply => ?_
  cases houtcome : supply.outcome with
  | ok value => exact ⟨value, rfl⟩
  | error reason =>
    exact absurd ((exists_refused_iff h hd hnamed).mp ⟨supply, hsupply, rfl, houtcome⟩)
      (hfits d hd _ _)

include h hchosen hnamed hfits in
/-- If every value that a layer supplies fits, a failure is of a template for which no layer
supplies one. -/
theorem leftToTemplate_of_invalid {failures : List Failure}
    (hfailed : resolve r env c profile overrides = .error (.validation failures)) :
    failures ≠ [] ∧ ∀ failure ∈ failures, ∃ d : Definition,
      d.LeftToTemplate r env chosen overrides ∧ failure.name = d.name ∧
      d.Misfills r failure.reason := by
  rw [resolve_eq_of_allFit hchosen hnamed h hfits] at hfailed
  rcases bind_eq_error hfailed with hfailed | ⟨_, -, hdone⟩
  · obtain ⟨hne, later, rfl, hlater⟩ := Expansion.rounds_eq_invalid hfailed
    refine ⟨hne, fun failure hfailure => ?_⟩
    obtain ⟨d, hd, hname, hcast⟩ := hlater failure hfailure
    obtain ⟨hmem, hopen⟩ := List.mem_filter.mp hd
    exact ⟨d, (isOpen_iff_leftToTemplate hnamed h hfits hmem).mp hopen, hname, hcast⟩
  · cases hdone

end Known

/-- Of overrides of unknown settings the first is reported. -/
theorem canonicalOverrides_of_unknown {key : String}
    (hunknown : overrides.keys.find? (!r.contains ·) = some key) :
    canonicalOverrides r overrides = .error (.unknownSetting key) := by
  unfold NameMap.keys at hunknown
  rw [List.find?_map] at hunknown
  obtain ⟨⟨first, value⟩, hfirst, rfl⟩ := Option.map_eq_some_iff.mp hunknown
  have hnone : r.find? first = none := by
    simpa [Registry.contains] using List.find?_some hfirst
  unfold canonicalOverrides
  rw [mapM_of_first_error (e := .unknownSetting first) hfirst]
  · rfl
  · simp only [Registry.lookup, hnone]
    rfl
  · rintro ⟨other, held⟩ - hknown
    obtain ⟨d, hd⟩ : ∃ d, r.find? other = some d := by
      simpa [Registry.contains, Option.isSome_iff_exists] using hknown
    refine ⟨(d.name, held), ?_⟩
    simp only [Registry.lookup_eq_ok_iff.mpr hd]
    rfl

/-- A profile that is missing is reported first, and then the first override of an unknown setting.
Without such, the values that do not fit have one report, and if it is not empty, its failures are
the error. If it is empty, a failure is of a template for which no layer supplies a value. -/
theorem refusals_reported {envPrefix : String} {home : Home} {definitions : List Definition}
    (hbuild : Registry.build envPrefix home definitions = .ok r) (env : Environment)
    (c : Collection) (profile : Option String) (overrides : Overrides) :
    (∀ name, profile = some name → name ∉ c.names →
      resolve r env c profile overrides = .error (.profileNotFound name)) ∧
    ∀ chosen, c.Selects profile chosen →
      (∀ key, overrides.keys.find? (!r.contains ·) = some key →
        resolve r env c profile overrides = .error (.unknownSetting key)) ∧
      ((∀ key ∈ overrides.keys, r.contains key) →
        ∃ report, Reports r env chosen overrides report ∧
          (∀ other, Reports r env chosen overrides other → other = report) ∧
          (report ≠ [] → resolve r env c profile overrides =
            .error (.validation (report.map Refusal.failure))) ∧
          (report = [] → ∀ failures,
            resolve r env c profile overrides = .error (.validation failures) →
              failures ≠ [] ∧ ∀ failure ∈ failures, ∃ d : Definition,
                d.LeftToTemplate r env chosen overrides ∧ failure.name = d.name ∧
                d.Misfills r failure.reason)) := by
  obtain ⟨rfl, h⟩ := Registry.consistent_of_build hbuild
  refine ⟨fun name hname hmissing => ?_,
    fun chosen hselects => ⟨fun key hkey => ?_, fun hknown => ?_⟩⟩
  · have hchosen := chosenProfile_eq_error_iff.mpr ⟨name, hname, hmissing, rfl⟩
    unfold resolve
    rw [hchosen]
    rfl
  · unfold resolve
    rw [chosenProfile_of_selects hselects, canonicalOverrides_of_unknown hkey]
    rfl
  · have hchosen := chosenProfile_of_selects hselects
    obtain ⟨named, hnamed⟩ := exists_canonicalOverrides hknown
    have hreport : Reports _ env chosen overrides _ := reports_allRefusals h hnamed
    refine ⟨_, hreport, fun other hother => hreport.unique h hother, fun hsome => ?_,
      fun hnil failures hfailed => ?_⟩
    · obtain ⟨x, hx⟩ := List.exists_mem_of_ne_nil _ hsome
      rw [resolve_eq_of_known hchosen hnamed,
        SettingsError.ofFailures_of_mem (List.mem_map_of_mem hx)]
      rfl
    · exact leftToTemplate_of_invalid hchosen hnamed h ((allFit_iff h hnamed).mpr hnil) hfailed

/-- A host that is no text and a port that no layer gets right are reported in the order of the
registry, and the port from the lowest layer up. -/
theorem refusals_reported_of_address :
    ∃ r p report, Registry.build "" none addressCatalog = .ok r ∧
      Collection.Selects ⟨[p], none⟩ (some "default") (some p) ∧
      Reports r (.ofList [("PORT", "0")]) (some p)
        (.ofList [("PORT", .integer 70000), ("HOST", .integer 1)]) report ∧
      report.map Refusal.failure =
        [⟨"HOST", .notOfKind .string⟩, ⟨"PORT", .notInteger⟩,
          ⟨"PORT", "value must be a port number between 1 and 65535"⟩,
          ⟨"PORT", "value must be a port number between 1 and 65535"⟩] ∧
      resolve r (.ofList [("PORT", "0")]) ⟨[p], none⟩ (some "default")
        (.ofList [("PORT", .integer 70000), ("HOST", .integer 1)]) =
          .error (.validation (report.map Refusal.failure)) := by
  let r : Registry := ⟨"", none, addressCatalog⟩
  let p : Profile := ⟨Collection.defaultName, .ofList [("PORT", .text "eighty")]⟩
  let overrides : Overrides := .ofList [("PORT", .integer 70000), ("HOST", .integer 1)]
  have hselects : Collection.Selects ⟨[p], none⟩ (some "default") (some p) := .named rfl
  have hknown : ∀ key ∈ overrides.keys, r.contains key := by decide +kernel
  have hfailed : resolve r (.ofList [("PORT", "0")]) ⟨[p], none⟩ (some "default") overrides =
      .error (.validation [⟨"HOST", .notOfKind .string⟩, ⟨"PORT", .notInteger⟩,
        ⟨"PORT", "value must be a port number between 1 and 65535"⟩,
        ⟨"PORT", "value must be a port number between 1 and 65535"⟩]) := by decide +kernel
  obtain ⟨-, hreported⟩ := refusals_reported build_addressCatalog (.ofList [("PORT", "0")])
    ⟨[p], none⟩ (some "default") overrides
  obtain ⟨report, hreport, -, hsome, -⟩ := (hreported _ hselects).2 hknown
  have hport : Definition.Refuses r (.ofList [("PORT", "0")]) (some p) overrides addressCatalog[3]
      .profile .notInteger := .profile rfl (.named rfl) (by decide +kernel)
  have hmem := (hreport.complete ⟨"PORT", .profile, .notInteger⟩).mpr
    ⟨_, List.getElem_mem _, rfl, hport⟩
  have hresolve := hsome (List.ne_nil_of_mem hmem)
  have hfailures := SettingsError.validation.inj (Except.error.inj (hresolve.symm.trans hfailed))
  exact ⟨r, p, report, build_addressCatalog, hselects, hreport, hfailures, hresolve⟩

end LayeredSettings
