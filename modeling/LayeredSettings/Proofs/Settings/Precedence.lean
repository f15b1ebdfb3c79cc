import LayeredSettings.Proofs.Settings.Equations

/-!
# The highest layer wins

For each setting the value in effect is an override, else the text of an environment variable, else
what the chosen profile stores, else the default. The reference below says so for one setting at a
time, in terms of what was given; a resolution that succeeds agrees with it on every setting.
-/

namespace LayeredSettings

variable {r : Registry} {d : Definition} {env : Environment}

/-- The profile to read: the one asked for by name, else the active one, else none. -/
inductive Collection.Selects (c : Collection) : Option String → Option Profile → Prop
  | named {name : String} {p : Profile} (hmem : c.get? name = some p) :
      Collection.Selects c (some name) (some p)
  | active {p : Profile} (hactive : c.activeProfile? = some p) :
      Collection.Selects c none (some p)
  | nothing (hactive : c.activeProfile? = none) : Collection.Selects c none none

/-- The value that a setting has by default when settings hold what an assignment says. -/
inductive Definition.HasDefault (d : Definition) (r : Registry) (held : Assignment) :
    Option Value → Prop
  | unset (hunset : d.defaultValue = .unset) : Definition.HasDefault d r held none
  | fixed {value : Value} (hfixed : d.defaultValue = .fixed value) :
      Definition.HasDefault d r held (some value)
  | template {template : String} {value : Value} (htemplate : d.defaultValue = .template template)
      (hcast : d.cast r.home (.text (Template.fill (held.text r) template)) = .ok value) :
      Definition.HasDefault d r held (some value)

/-- None of a setting's keys is overridden. -/
def Overrides.Omits (overrides : Overrides) (d : Definition) : Prop :=
  ∀ key ∈ d.keys, overrides.get? key = none

/-- None of a setting's variables is set. -/
def Environment.Omits (env : Environment) (r : Registry) (d : Definition) : Prop :=
  ∀ name ∈ r.variableNames d, env.get? name = none

/-- None of a setting's keys is stored in the profile, if there is one. -/
def Profile.Omits (chosen : Option Profile) (d : Definition) : Prop :=
  ∀ p, chosen = some p → ∀ key ∈ d.keys, p.settings.get? key = none

/-- The entry in effect for a setting, by the highest layer that supplies a value. -/
inductive Definition.Effective (r : Registry) (env : Environment) (chosen : Option Profile)
    (overrides : Overrides) (held : Assignment) (d : Definition) : Entry → Prop
  | override {key : String} {value : Value} (hkey : key ∈ d.keys)
      (hgiven : overrides.get? key = some value) :
      Definition.Effective r env chosen overrides held d ⟨d.name, some value, .override⟩
  | environment {text : String} {value : Value} (hoverrides : overrides.Omits d)
      (htext : env.Supplies r d text) (hcast : d.cast r.home (.text text) = .ok value) :
      Definition.Effective r env chosen overrides held d ⟨d.name, some value, .environment⟩
  | profile {p : Profile} {raw : Raw} {value : Value} (hoverrides : overrides.Omits d)
      (henv : env.Omits r d) (hchosen : chosen = some p) (hraw : p.Stores d raw)
      (hcast : d.cast r.home raw = .ok value) :
      Definition.Effective r env chosen overrides held d ⟨d.name, some value, .profile⟩
  | default {value : Option Value} (hoverrides : overrides.Omits d) (henv : env.Omits r d)
      (hprofile : Profile.Omits chosen d) (hdefault : d.HasDefault r held value) :
      Definition.Effective r env chosen overrides held d ⟨d.name, value, .default⟩

section Reference

variable {chosen : Option Profile} {overrides : Overrides} {held : Assignment}

/-- A setting has one default. -/
theorem Definition.HasDefault.unique {value other : Option Value}
    (h : d.HasDefault r held value) (hother : d.HasDefault r held other) : value = other := by
  cases h with
  | unset hunset =>
    cases hother with
    | unset _ => rfl
    | fixed hfixed => simp [hunset] at hfixed
    | template htemplate _ => simp [hunset] at htemplate
  | fixed hfixed =>
    cases hother with
    | unset hunset => simp [hfixed] at hunset
    | fixed hfixed' => simpa [hfixed] using hfixed'
    | template htemplate _ => simp [hfixed] at htemplate
  | template htemplate hcast =>
    cases hother with
    | unset hunset => simp [htemplate] at hunset
    | fixed hfixed => simp [htemplate] at hfixed
    | template htemplate' hcast' =>
      have htext := DefaultValue.template.inj (htemplate.symm.trans htemplate')
      rw [htext, hcast'] at hcast
      rw [Except.ok.inj hcast]

/-- An environment without the variables of a setting supplies no text for it. -/
private theorem Environment.Omits.not_supplies (h : env.Omits r d) {text : String} :
    ¬ env.Supplies r d text := by
  intro hsupplies
  have hnone : env.lookup? r d = none := List.findSome?_eq_none_iff.mpr h
  simp [hsupplies.lookup?_eq] at hnone

/-- A profile without the keys of a setting stores nothing for it. -/
private theorem Profile.Omits.not_stores (h : Profile.Omits chosen d) {p : Profile}
    (hchosen : chosen = some p) {raw : Raw} : ¬ p.Stores d raw := by
  intro hstores
  obtain ⟨key, hkey, hget⟩ := hstores.exists_key
  simp [h p hchosen key hkey] at hget

/-- Overrides without the keys of a setting give nothing for it. -/
private theorem Overrides.Omits.not_given (h : overrides.Omits d) {key : String} {value : Value}
    (hkey : key ∈ d.keys) : overrides.get? key ≠ some value := by
  simp [h key hkey]

/-- The layers give one entry for a setting if at most one of its keys is overridden. -/
theorem Definition.Effective.unique (hone : r.OneKeyEach overrides) (hd : d ∈ r.definitions)
    {e f : Entry} (he : d.Effective r env chosen overrides held e)
    (hf : d.Effective r env chosen overrides held f) : e = f := by
  cases he with
  | override hkey hgiven =>
    cases hf with
    | override hkey' hgiven' =>
      have hsame := hone d hd _ hkey _ hkey' (by simp [NameMap.contains, hgiven])
        (by simp [NameMap.contains, hgiven'])
      rw [hsame, hgiven'] at hgiven
      rw [Option.some.inj hgiven]
    | environment hnone _ _ => exact absurd hgiven (hnone.not_given hkey)
    | profile hnone _ _ _ _ => exact absurd hgiven (hnone.not_given hkey)
    | default hnone _ _ _ => exact absurd hgiven (hnone.not_given hkey)
  | environment hnone htext hcast =>
    cases hf with
    | override hkey hgiven => exact absurd hgiven (hnone.not_given hkey)
    | environment _ htext' hcast' =>
      have hsame := Option.some.inj (htext.lookup?_eq.symm.trans htext'.lookup?_eq)
      rw [hsame, hcast'] at hcast
      rw [Except.ok.inj hcast]
    | profile _ henv _ _ _ => exact absurd htext henv.not_supplies
    | default _ henv _ _ => exact absurd htext henv.not_supplies
  | profile hnone henv hchosen hraw hcast =>
    cases hf with
    | override hkey hgiven => exact absurd hgiven (hnone.not_given hkey)
    | environment _ htext _ => exact absurd htext henv.not_supplies
    | profile _ _ hchosen' hraw' hcast' =>
      rw [Option.some.inj (hchosen.symm.trans hchosen')] at hraw
      rw [hraw.unique hraw', hcast'] at hcast
      rw [Except.ok.inj hcast]
    | default _ _ hprofile _ => exact absurd hraw (hprofile.not_stores hchosen)
  | default hnone henv hprofile hdefault =>
    cases hf with
    | override hkey hgiven => exact absurd hgiven (hnone.not_given hkey)
    | environment _ htext _ => exact absurd htext henv.not_supplies
    | profile _ _ hchosen hraw _ => exact absurd hraw (hprofile.not_stores hchosen)
    | default _ _ _ hdefault' => rw [hdefault.unique hdefault']

end Reference

/-- The profile that a resolution reads is the selected one. -/
theorem selects_of_chosenProfile {c : Collection} {profile : Option String}
    {chosen : Option Profile} (hok : chosenProfile c profile = .ok chosen) :
    c.Selects profile chosen := by
  cases profile with
  | some name =>
    obtain ⟨p, hp, hchosen⟩ := bind_eq_ok hok
    cases hchosen
    unfold Collection.require at hp
    cases hget : c.get? name with
    | none => simp [hget] at hp
    | some found =>
      have heq : found = p := by simpa [hget] using hp
      exact .named (heq ▸ hget)
  | none =>
    cases hok
    cases hactive : c.activeProfile? with
    | none => exact .nothing hactive
    | some p => exact .active hactive

/-- What is stored in the selected profile, under the name of a setting. -/
theorem stores_of_get?_storedValues (h : r.Consistent) (hd : d ∈ r.definitions)
    {chosen : Option Profile} {raw : Raw}
    (hget : (storedValues r chosen).get? d.name = some raw) :
    ∃ p, chosen = some p ∧ p.Stores d raw := by
  cases chosen with
  | none => cases hget
  | some p => exact ⟨p, rfl, Profile.stores_of_get?_effective h hd hget⟩

/-- If nothing stands under the name of a setting, the selected profile stores none of its keys. -/
theorem omits_of_get?_storedValues (h : r.Consistent) (hd : d ∈ r.definitions)
    {chosen : Option Profile} (hget : (storedValues r chosen).get? d.name = none) :
    Profile.Omits chosen d := by
  rintro p rfl
  exact Profile.get?_eq_none_of_get?_effective h hd hget

section Merged

variable {stored : NameMap Raw} {named : NameMap Value}
  (hfits : ∀ supply ∈ supplies r stored env named d, ∃ value, supply.outcome = .ok value)
include hfits

/-- An override counts whatever the other layers supply. -/
private theorem mergedEntry_of_override {value : Value} (hnamed : named.get? d.name = some value) :
    mergedEntry d (supplies r stored env named d) = ⟨d.name, some value, .override⟩ := by
  unfold supplies at hfits ⊢
  simp only [hnamed, Option.map_some, Option.toList_some] at hfits ⊢
  obtain ⟨other, hother⟩ := hfits _ (List.mem_append_right _ List.mem_cons_self)
  cases hvalid : d.validate value with
  | error reason => simp [hvalid, Except.map] at hother
  | ok _ => exact mergedEntry_concat d _ .override value

/-- Without an override the text of the environment counts. -/
theorem mergedEntry_of_environment (hnamed : named.get? d.name = none) {text : String}
    (htext : env.lookup? r d = some text) :
    ∃ value, d.cast r.home (.text text) = .ok value ∧
      mergedEntry d (supplies r stored env named d) = ⟨d.name, some value, .environment⟩ := by
  unfold supplies at hfits ⊢
  simp only [hnamed, htext, Option.map_some, Option.map_none, Option.toList_some,
    Option.toList_none, List.append_nil] at hfits ⊢
  obtain ⟨value, hvalue⟩ := hfits _ (List.mem_append_right _ List.mem_cons_self)
  refine ⟨value, hvalue, ?_⟩
  dsimp only at hvalue
  rw [hvalue, mergedEntry_concat]

/-- Without an override and a text the stored value counts. -/
theorem mergedEntry_of_profile (hnamed : named.get? d.name = none)
    (htext : env.lookup? r d = none) {raw : Raw} (hraw : stored.get? d.name = some raw) :
    ∃ value, d.cast r.home raw = .ok value ∧
      mergedEntry d (supplies r stored env named d) = ⟨d.name, some value, .profile⟩ := by
  unfold supplies at hfits ⊢
  simp only [hnamed, htext, hraw, Option.map_some, Option.map_none, Option.toList_some,
    Option.toList_none, List.append_nil] at hfits ⊢
  obtain ⟨value, hvalue⟩ := hfits _ List.mem_cons_self
  refine ⟨value, hvalue, ?_⟩
  dsimp only at hvalue
  rw [hvalue]
  exact mergedEntry_concat d [] .profile value

omit hfits in
/-- Where no layer supplies anything the default stands. -/
theorem mergedEntry_of_none (hnamed : named.get? d.name = none)
    (htext : env.lookup? r d = none) (hraw : stored.get? d.name = none) :
    mergedEntry d (supplies r stored env named d) = d.defaultEntry := by
  unfold supplies
  simp only [hnamed, htext, hraw, Option.map_none, Option.toList_none, List.append_nil,
    mergedEntry_nil]

end Merged

/-- An entry that no template can be left with, because a layer has replaced it. -/
private theorem not_leftTo_of_source {e : Entry} (hsource : e.source ≠ .default) :
    ∀ w ∈ r.definitions, ∀ template, ¬ e.LeftTo w template :=
  fun _ _ _ hleft => hsource hleft.2.1

/-- A default entry of a definition whose default is no template is not left to one. -/
private theorem not_leftTo_of_default (h : r.Consistent) (hd : d ∈ r.definitions)
    (hdefault : ∀ template, d.defaultValue ≠ .template template) :
    ∀ w ∈ r.definitions, ∀ template, ¬ d.defaultEntry.LeftTo w template := by
  rintro w hw template ⟨hname, -, htemplate⟩
  rw [Definition.defaultEntry_name] at hname
  rw [h.eq_of_name_eq hw hd hname] at htemplate
  exact hdefault template htemplate

/-- At its default a setting holds the fixed value, nothing, or what the template gives. -/
private theorem hasDefault_of_entry (h : r.Consistent) (hd : d ∈ r.definitions) {s : Settings}
    (hsolved : s.Equations r s.value?) {e : Entry} (he : e ∈ s.entries) (hname : e.name = d.name)
    (hsource : e.source = .default) (hheld : s.value? e.name = e.value)
    (hkept : (∀ w ∈ r.definitions, ∀ template, ¬ d.defaultEntry.LeftTo w template) →
      e = d.defaultEntry) :
    d.HasDefault r s.value? e.value := by
  cases hdefault : d.defaultValue with
  | unset =>
    rw [hkept (not_leftTo_of_default h hd (by simp [hdefault]))]
    simpa [Definition.defaultEntry, hdefault] using Definition.HasDefault.unset hdefault
  | fixed value =>
    rw [hkept (not_leftTo_of_default h hd (by simp [hdefault]))]
    simpa [Definition.defaultEntry, hdefault] using Definition.HasDefault.fixed hdefault
  | template template =>
    obtain ⟨value, hvalue, hcast⟩ :=
      hsolved.solves e he d hd template ⟨hname.symm, hsource, hdefault⟩
    rw [← hheld, hvalue]
    exact .template hdefault hcast

/-- After a successful resolution there is one entry for each definition, in the order of the
registry, and it is the one that the highest layer gives. -/
theorem resolve_precedence {envPrefix : String} {home : Home} {definitions : List Definition}
    (hbuild : Registry.build envPrefix home definitions = .ok r) {c : Collection}
    {profile : Option String} {overrides : Overrides} (hone : r.OneKeyEach overrides)
    {s : Settings} (hok : resolve r env c profile overrides = .ok s) :
    ∃ chosen, c.Selects profile chosen ∧
      List.Forall₂ (Definition.Effective r env chosen overrides s.value?) r.definitions
        s.entries := by
  obtain ⟨-, h⟩ := Registry.consistent_of_build hbuild
  obtain ⟨chosen, named, hchosen, hnamed, hfits, hentries⟩ := resolve_eq_ok hok
  have hnames := map_mergedEntry_name (r := r) (supplies r (storedValues r chosen) env named)
  obtain ⟨horder, hsolved, -⟩ := solves_of_expandTemplates h hnames hentries
  refine ⟨chosen, selects_of_chosenProfile hchosen, forall₂_of_map_eq horder.symm ?_⟩
  intro d hd e he hname
  have hheld := Settings.value?_of_mem (horder ▸ h.nodup_names) he
  obtain ⟨hsource, hkept⟩ := entry_of_expandTemplates h hnames hentries
    (List.mem_map_of_mem hd) he (hname.symm.trans (mergedEntry_name d _).symm)
  by_cases hgiven : ∃ key ∈ d.keys, ∃ value, overrides.get? key = some value
  · obtain ⟨key, hkey, value, hvalue⟩ := hgiven
    have hmerged := mergedEntry_of_override (hfits d hd)
      (get?_canonicalOverrides_of_given h hd hone hnamed hkey hvalue)
    rw [hmerged] at hkept
    rw [hkept (not_leftTo_of_source (by simp))]
    exact .override hkey hvalue
  · have hoverrides : overrides.Omits d := fun key hkey =>
      Option.eq_none_iff_forall_ne_some.mpr fun value hvalue => hgiven ⟨key, hkey, value, hvalue⟩
    have hnone := get?_canonicalOverrides_of_absent h hd hnamed hoverrides
    cases htext : env.lookup? r d with
    | some text =>
      obtain ⟨value, hcast, hmerged⟩ := mergedEntry_of_environment (hfits d hd) hnone htext
      rw [hmerged] at hkept
      rw [hkept (not_leftTo_of_source (by simp))]
      exact .environment hoverrides (Environment.supplies_of_lookup? htext) hcast
    | none =>
      have henv : env.Omits r d := Environment.get?_eq_none_of_lookup? htext
      cases hraw : (storedValues r chosen).get? d.name with
      | some raw =>
        obtain ⟨value, hcast, hmerged⟩ := mergedEntry_of_profile (hfits d hd) hnone htext hraw
        obtain ⟨p, hp, hstores⟩ := stores_of_get?_storedValues h hd hraw
        rw [hmerged] at hkept
        rw [hkept (not_leftTo_of_source (by simp))]
        exact .profile hoverrides henv hp hstores hcast
      | none =>
        rw [mergedEntry_of_none hnone htext hraw] at hsource hkept
        rw [Definition.defaultEntry_source] at hsource
        have hdefault := hasDefault_of_entry h hd hsolved he hname.symm hsource hheld hkept
        have hentry : e = ⟨d.name, e.value, .default⟩ := by rw [hname, ← hsource]
        rw [hentry]
        exact .default hoverrides henv (omits_of_get?_storedValues h hd hraw) hdefault

/-- A profile that stores the port of an address. -/
def portProfile : Profile := ⟨Collection.defaultName, .ofList [("PORT", .integer 8080)]⟩

/-- Of the address settings one comes from each layer. -/
theorem resolve_precedence_of_address :
    ∃ r s chosen, Registry.build "" none addressCatalog = .ok r ∧
      r.OneKeyEach (.ofList [("SERVER", .string "db")]) ∧
      resolve r (.ofList [("ADDRESS", "box:1")]) ⟨[portProfile], none⟩ (some "default")
        (.ofList [("SERVER", .string "db")]) = .ok s ∧
      s.entries.map (·.source) = [.default, .environment, .override, .profile] ∧
      List.Forall₂ (Definition.Effective r (.ofList [("ADDRESS", "box:1")]) chosen
        (.ofList [("SERVER", .string "db")]) s.value?) r.definitions s.entries := by
  have hone : Registry.OneKeyEach ⟨"", none, addressCatalog⟩
      (.ofList [("SERVER", .string "db")]) := by
    unfold Registry.OneKeyEach
    decide +kernel
  have hok : resolve ⟨"", none, addressCatalog⟩ (.ofList [("ADDRESS", "box:1")])
      ⟨[portProfile], none⟩ (some "default") (.ofList [("SERVER", .string "db")]) =
      .ok ⟨[⟨"URL", some (.string "http://box:1/"), .default⟩,
        ⟨"ADDRESS", some (.string "box:1"), .environment⟩,
        ⟨"HOST", some (.string "db"), .override⟩, ⟨"PORT", some (.integer 8080), .profile⟩]⟩ := by
    decide +kernel
  obtain ⟨chosen, -, hentries⟩ := resolve_precedence build_addressCatalog hone hok
  exact ⟨_, _, chosen, build_addressCatalog, hone, hok, rfl, hentries⟩

end LayeredSettings
