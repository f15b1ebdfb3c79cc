import LayeredSettings.Proofs.Settings.Independence
import LayeredSettings.Proofs.Settings.ProfileLayering
import LayeredSettings.Proofs.Value.Finite

/-!
# Numbers that are not finite

Text that stands for no finite number is refused in every layer, and so an entry of a setting for
numbers holds a finite one wherever its value comes from text. A profile can also store numbers as
such, infinite and undefined ones among them. These are taken as they are, and nothing else makes an
entry that is not finite.
-/

namespace LayeredSettings

variable {r : Registry} {env : Environment} {d : Definition} {e : Entry} {s l : Settings}

/-- What is stored for a setting in the first profile of a list that stores anything for it. -/
inductive Profile.FirstStored (d : Definition) : List Profile → Raw → Prop
  | here {p : Profile} {lower : List Profile} {raw : Raw} (hstores : p.Stores d raw) :
      FirstStored d (p :: lower) raw
  | past {p : Profile} {lower : List Profile} {raw : Raw} (hnone : ∀ other, ¬ p.Stores d other)
      (hlower : FirstStored d lower raw) : FirstStored d (p :: lower) raw

/-- A snapshot that was resolved without overrides, with any profiles layered on it. The list holds
the profiles that were read, the uppermost first. -/
inductive Settings.Stacked (r : Registry) (env : Environment) : List Profile → Settings → Prop
  | resolved {c : Collection} {profile : Option String} {chosen : Option Profile} {s : Settings}
      (hchosen : c.Selects profile chosen) (hok : resolve r env c profile .empty = .ok s) :
      Stacked r env chosen.toList s
  | layered {lower : List Profile} {p : Profile} {s l : Settings} (hs : Stacked r env lower s)
      (hok : s.layerProfile r p = .ok l) : Stacked r env (p :: lower) l

/-- Where the entry of a setting comes from when there are no overrides: the text of the
environment, else what the first profile stores, else the default. -/
inductive Entry.ComesFrom (r : Registry) (env : Environment) (profiles : List Profile)
    (d : Definition) : Entry → Prop
  | environment {text : String} {value : Value} (htext : env.Supplies r d text)
      (hcast : d.cast r.home (.text text) = .ok value) :
      ComesFrom r env profiles d ⟨d.name, some value, .environment⟩
  | profile {raw : Raw} {value : Value} (henv : env.Omits r d)
      (hraw : Profile.FirstStored d profiles raw) (hcast : d.cast r.home raw = .ok value) :
      ComesFrom r env profiles d ⟨d.name, some value, .profile⟩
  | template {text : String} {value : Value} (henv : env.Omits r d)
      (hnone : ∀ raw, ¬ Profile.FirstStored d profiles raw)
      (hcast : d.cast r.home (.text text) = .ok value) :
      ComesFrom r env profiles d ⟨d.name, some value, .default⟩
  | fixed (htemplate : d.template? = none) (henv : env.Omits r d)
      (hnone : ∀ raw, ¬ Profile.FirstStored d profiles raw) :
      ComesFrom r env profiles d d.defaultEntry

/-- The entry holds a finite number. -/
def Entry.HoldsFinite (e : Entry) : Prop := ∃ x, e.value = some (.float x) ∧ x.isFinite = true

namespace Profile

/-- One value at most is stored first. -/
theorem FirstStored.unique {profiles : List Profile} {raw other : Raw}
    (h : FirstStored d profiles raw) (hother : FirstStored d profiles other) : raw = other := by
  induction h with
  | here hstores =>
    cases hother with
    | here hstores' => exact hstores.unique hstores'
    | past hnone _ => exact absurd hstores (hnone _)
  | past hnone _ ih =>
    cases hother with
    | here hstores => exact absurd hstores (hnone _)
    | past _ hlower => exact ih hlower

/-- In one profile or none, the first that stores something is the one there is. -/
theorem firstStored_toList_iff {chosen : Option Profile} {raw : Raw} :
    FirstStored d chosen.toList raw ↔ ∃ p, chosen = some p ∧ p.Stores d raw := by
  constructor
  · intro h
    cases chosen with
    | none => cases h
    | some p =>
      cases h with
      | here hstores => exact ⟨p, rfl, hstores⟩
      | past _ hlower => cases hlower
  · rintro ⟨p, rfl, hstores⟩
    exact .here hstores

/-- A profile that stores nothing for a setting does not change what is stored for it first. -/
theorem firstStored_cons_iff {p : Profile} {lower : List Profile} {raw : Raw}
    (hnone : ∀ other, ¬ p.Stores d other) :
    FirstStored d (p :: lower) raw ↔ FirstStored d lower raw := by
  constructor
  · intro h
    cases h with
    | here hstores => exact absurd hstores (hnone raw)
    | past _ hlower => exact hlower
  · exact .past hnone

end Profile

/-- After a resolution without overrides an entry comes from the environment, the selected profile
or the default. -/
theorem comesFrom_of_resolve (h : r.Consistent) (hd : d ∈ r.definitions) {c : Collection}
    {profile : Option String} {chosen : Option Profile} (hchosen : c.Selects profile chosen)
    (hok : resolve r env c profile .empty = .ok s) (hget : s.get? d.name = some e) :
    e.ComesFrom r env chosen.toList d := by
  obtain ⟨chosen', named, hchosen', hnamed, hfits, hentries⟩ := resolve_eq_ok hok
  obtain rfl : chosen' = chosen := (selects_of_chosenProfile hchosen').unique hchosen
  change expandTemplates r (mergedEntries r (storedValues r chosen') env named) = _ at hentries
  have hnames := map_name_mergedEntries (r := r) (storedValues r chosen') env named
  have hnothing : named.get? d.name = none :=
    get?_canonicalOverrides_of_absent h hd hnamed fun key _ => NameMap.get?_empty key
  cases htext : env.lookup? r d with
  | some text =>
    obtain ⟨value, hcast, hmerged⟩ := mergedEntry_of_environment (hfits d hd) hnothing htext
    have hclosed : ¬ Expansion.isOpen (mergedEntries r (storedValues r chosen') env named) d :=
      not_isOpen_mergedEntries h hd (by simp [hmerged])
    rw [get?_of_not_isOpen h hnames hentries hd hclosed, get?_mergedEntries h hd, hmerged] at hget
    rw [← Option.some.inj hget]
    exact .environment (Environment.supplies_of_lookup? htext) hcast
  | none =>
    have henv : env.Omits r d := Environment.get?_eq_none_of_lookup? htext
    cases hraw : (storedValues r chosen').get? d.name with
    | some raw =>
      obtain ⟨value, hcast, hmerged⟩ := mergedEntry_of_profile (hfits d hd) hnothing htext hraw
      have hclosed : ¬ Expansion.isOpen (mergedEntries r (storedValues r chosen') env named) d :=
        not_isOpen_mergedEntries h hd (by simp [hmerged])
      rw [get?_of_not_isOpen h hnames hentries hd hclosed, get?_mergedEntries h hd,
        hmerged] at hget
      rw [← Option.some.inj hget]
      have hstored := Profile.firstStored_toList_iff.mpr (stores_of_get?_storedValues h hd hraw)
      exact .profile henv hstored hcast
    | none =>
      have hmerged := mergedEntry_of_none (r := r) hnothing htext hraw
      have hnone : ∀ raw, ¬ Profile.FirstStored d chosen'.toList raw := by
        intro raw hstored
        obtain ⟨p, rfl, hstores⟩ := Profile.firstStored_toList_iff.mp hstored
        exact Option.some_ne_none raw
          (((Profile.get?_effective_eq_some_iff h hd).mpr hstores).symm.trans hraw)
      by_cases hopen : Expansion.isOpen (mergedEntries r (storedValues r chosen') env named) d
      · obtain ⟨value, hvalue, hcast⟩ := get?_of_isOpen h hnames hentries hd hopen
        rw [hget] at hvalue
        rw [Option.some.inj hvalue]
        exact .template henv hnone hcast
      · have hsource := congrArg Entry.source hmerged
        rw [d.defaultEntry_source] at hsource
        rw [get?_of_not_isOpen h hnames hentries hd hopen, get?_mergedEntries h hd,
          hmerged] at hget
        rw [← Option.some.inj hget]
        exact .fixed (template?_eq_none_of_not_isOpen h hd hopen hsource) henv hnone

/-- An entry from a profile or the default takes what a profile on top stores for its setting, and
stays as it is if that profile stores nothing. -/
theorem layerProfile_cases (h : r.Consistent) (hd : d ∈ r.definitions) {p : Profile}
    {before after : Entry} (hok : s.layerProfile r p = .ok l) (hs : s.get? d.name = some before)
    (hl : l.get? d.name = some after)
    (hsource : before.source = .default ∨ before.source = .profile) :
    ((∀ raw, ¬ p.Stores d raw) ∧ after = before) ∨
      ∃ raw value, p.Stores d raw ∧ d.cast r.home raw = .ok value ∧
        after = ⟨d.name, some value, .profile⟩ := by
  have hname : before.name = d.name := by simpa using List.find?_some hs
  unfold Settings.layerProfile at hok
  have hfailures := (Settings.layerWith_eq_ok_iff.mp hok).1 before (List.mem_of_find?_eq_some hs)
  rw [Settings.get?_of_layerWith hok, hs, Option.map_some] at hl
  rw [profileSupply_eq h hd _ hname, if_pos hsource] at hfailures hl
  unfold profileFor at hfailures hl
  cases hraw : (p.effective r).get? d.name with
  | none =>
    rw [hraw] at hl
    refine Or.inl ⟨fun raw hstores => ?_, (Option.some.inj hl).symm⟩
    exact Option.some_ne_none raw
      (((Profile.get?_effective_eq_some_iff h hd).mpr hstores).symm.trans hraw)
  | some raw =>
    rw [hraw] at hfailures hl
    obtain ⟨value, hcast⟩ := supplyFailures_eq_nil_iff.mp hfailures _ List.mem_cons_self
    refine Or.inr ⟨raw, value, Profile.stores_of_get?_effective h hd hraw, hcast, ?_⟩
    dsimp only at hcast
    rw [← Option.some.inj hl, ← hname]
    simp only [Option.map_some, Settings.Layered.of, Entry.accept, hcast]

/-- An entry from a higher layer keeps its value under a profile. -/
theorem eq_of_layerProfile (h : r.Consistent) (hd : d ∈ r.definitions) {p : Profile}
    {before after : Entry} (hok : s.layerProfile r p = .ok l) (hs : s.get? d.name = some before)
    (hl : l.get? d.name = some after)
    (hsource : ¬ (before.source = .default ∨ before.source = .profile)) : after = before := by
  have hname : before.name = d.name := by simpa using List.find?_some hs
  unfold Settings.layerProfile at hok
  rw [Settings.get?_of_layerWith hok, hs, Option.map_some, profileSupply_eq h hd _ hname,
    if_neg hsource] at hl
  exact (Option.some.inj hl).symm

/-- A profile that is put on a snapshot takes the place of what comes from the profiles below it or
from the default. -/
theorem Entry.ComesFrom.layerProfile (h : r.Consistent) (hd : d ∈ r.definitions)
    {lower : List Profile} {p : Profile} {before after : Entry}
    (hbefore : before.ComesFrom r env lower d) (hok : s.layerProfile r p = .ok l)
    (hs : s.get? d.name = some before) (hl : l.get? d.name = some after) :
    after.ComesFrom r env (p :: lower) d := by
  have hlayered := layerProfile_cases h hd hok hs hl
  cases hbefore with
  | environment htext hcast =>
    rw [eq_of_layerProfile h hd hok hs hl (by simp)]
    exact .environment htext hcast
  | profile henv hraw hcast =>
    rcases hlayered (Or.inr rfl) with ⟨hnone, rfl⟩ | ⟨raw, value, hstores, hcast', rfl⟩
    · exact .profile henv (.past hnone hraw) hcast
    · exact .profile henv (.here hstores) hcast'
  | template henv hnothing hcast =>
    rcases hlayered (Or.inl rfl) with ⟨hnone, rfl⟩ | ⟨raw, value, hstores, hcast', rfl⟩
    · exact .template henv
        (fun raw => (Profile.firstStored_cons_iff hnone).not.mpr (hnothing raw)) hcast
    · exact .profile henv (.here hstores) hcast'
  | fixed htemplate henv hnothing =>
    rcases hlayered (Or.inl d.defaultEntry_source) with
      ⟨hnone, rfl⟩ | ⟨raw, value, hstores, hcast, rfl⟩
    · exact .fixed htemplate henv fun raw =>
        (Profile.firstStored_cons_iff hnone).not.mpr (hnothing raw)
    · exact .profile henv (.here hstores) hcast

/-- However many profiles are put on a snapshot, an entry comes from the environment, the first
profile that stores something for the setting, or the default. -/
theorem Settings.Stacked.comesFrom (h : r.Consistent) (hd : d ∈ r.definitions)
    {profiles : List Profile} (hs : s.Stacked r env profiles) (hget : s.get? d.name = some e) :
    e.ComesFrom r env profiles d := by
  induction hs generalizing e with
  | resolved hchosen hok => exact comesFrom_of_resolve h hd hchosen hok hget
  | @layered lower p s l _ hok ih =>
    have hbefore := hget
    unfold layerProfile at hok
    rw [get?_of_layerWith hok] at hbefore
    obtain ⟨before, hs, -⟩ := Option.map_eq_some_iff.mp hbefore
    exact (ih hs).layerProfile h hd hok hs hget

/-- The entry of a setting for numbers whose value some layer or template gives holds a finite
number, unless it is one that is stored as such and is not finite. -/
theorem Entry.ComesFrom.holdsFinite_iff (hkind : d.kind = .float) {profiles : List Profile}
    (hfrom : e.ComesFrom r env profiles d)
    (hgiven : e.source ≠ .default ∨ d.template?.isSome = true) :
    e.HoldsFinite ↔ ¬ (e.source = .profile ∧
      ∃ raw, Profile.FirstStored d profiles raw ∧ raw.IsNonFinite) := by
  -- What a raw value is cast to is finite unless the raw value is a number that is not.
  have hholds : ∀ {raw : Raw} {value : Value} {source : Source}, d.cast r.home raw = .ok value →
      (Entry.HoldsFinite ⟨d.name, some value, source⟩ ↔ ¬ raw.IsNonFinite) := by
    intro raw value source hcast
    obtain ⟨x, hread, rfl⟩ := Definition.exists_float_of_cast hkind hcast
    rw [← isFinite_iff_of_toFloat? hread]
    simp [HoldsFinite]
  have htext : ∀ text, ¬ (Raw.text text).IsNonFinite := by
    rintro text ⟨x, hx, -⟩
    cases hx
  cases hfrom with
  | environment _ hcast => simp [hholds hcast, htext]
  | @profile raw value _ hraw hcast =>
    rw [hholds hcast]
    refine not_congr ⟨fun hnot => ⟨rfl, raw, hraw, hnot⟩, ?_⟩
    rintro ⟨-, other, hother, hnot⟩
    exact hraw.unique hother ▸ hnot
  | template _ _ hcast => simp [hholds hcast, htext]
  | fixed htemplate _ _ =>
    rcases hgiven with hsource | hsome
    · exact absurd d.defaultEntry_source hsource
    · rw [htemplate] at hsome
      cases hsome

/-- The profile to read is the selected one. -/
theorem chosenProfile_of_selects {c : Collection} {profile : Option String}
    {chosen : Option Profile} (h : c.Selects profile chosen) :
    chosenProfile c profile = .ok chosen := by
  cases h with
  | named hmem => simp [chosenProfile, Collection.require, hmem]
  | active hactive => exact congrArg Except.ok hactive
  | nothing hactive => exact congrArg Except.ok hactive

/-- A value that does not fit is named among the failures. -/
theorem mem_supplyFailures {supplied : List Supply} {supply : Supply} (hmem : supply ∈ supplied)
    {reason : Reason} (hrefused : supply.outcome = .error reason) :
    ⟨d.name, reason⟩ ∈ supplyFailures d supplied :=
  List.mem_filterMap.mpr ⟨supply, hmem, by rw [hrefused]⟩

/-- A resolution fails with what is wrong with any value that a layer supplies. -/
theorem resolve_of_refused (hd : d ∈ r.definitions) {c : Collection} {profile : Option String}
    {chosen : Option Profile} (hchosen : c.Selects profile chosen) {supply : Supply}
    (hmem : supply ∈ supplies r (storedValues r chosen) env .empty d) {reason : Reason}
    (hrefused : supply.outcome = .error reason) :
    ∃ failures, resolve r env c profile .empty = .error (.validation failures) ∧
      ⟨d.name, reason⟩ ∈ failures := by
  have hfailure : ⟨d.name, reason⟩ ∈ r.definitions.flatMap fun d =>
      supplyFailures d (supplies r (storedValues r chosen) env .empty d) :=
    List.mem_flatMap.mpr ⟨d, hd, mem_supplyFailures hmem hrefused⟩
  refine ⟨_, ?_, hfailure⟩
  have hnamed : canonicalOverrides r .empty = .ok .empty := rfl
  unfold resolve
  rw [chosenProfile_of_selects hchosen, hnamed]
  simp only [bind, Except.bind, SettingsError.ofFailures_of_mem hfailure]

/-- A profile is not put on a snapshot if what it stores for an entry that it would replace does not
fit. -/
theorem layerProfile_of_refused (h : r.Consistent) (hd : d ∈ r.definitions) {p : Profile}
    (hget : s.get? d.name = some e) (hsource : e.source = .default ∨ e.source = .profile)
    {raw : Raw} (hstores : p.Stores d raw) {reason : Reason}
    (hrefused : d.cast r.home raw = .error reason) :
    ∃ failures, s.layerProfile r p = .error (.validation failures) ∧
      ⟨d.name, reason⟩ ∈ failures := by
  have hname : e.name = d.name := by simpa using List.find?_some hget
  have hraw := (Profile.get?_effective_eq_some_iff h hd).mpr hstores
  have hsupply : Settings.profileSupply r (p.effective r) e =
      some (d, ⟨.profile, .error reason⟩) := by
    rw [profileSupply_eq h hd _ hname, if_pos hsource]
    unfold profileFor
    rw [hraw, Option.map_some, hrefused, Option.map_some]
  have hfailure : ⟨d.name, reason⟩ ∈ s.entries.flatMap fun e =>
      (Settings.Layered.of e (Settings.profileSupply r (p.effective r) e)).failures := by
    refine List.mem_flatMap.mpr ⟨e, List.mem_of_find?_eq_some hget, ?_⟩
    have hgiven : Supply.mk .profile (.error reason) ∈ [Supply.mk .profile (.error reason)] :=
      List.mem_cons_self
    rw [hsupply]
    exact mem_supplyFailures hgiven rfl
  refine ⟨_, ?_, hfailure⟩
  unfold Settings.layerProfile
  rw [Settings.layerWith_eq, SettingsError.ofFailures_of_mem hfailure]
  rfl

/-- The layer supplies the raw value for the setting. -/
inductive Raw.Supplied (r : Registry) (env : Environment) (chosen : Option Profile)
    (d : Definition) : Raw → Prop
  | environment {text : String} (htext : env.Supplies r d text) :
      Supplied r env chosen d (.text text)
  | profile {p : Profile} {raw : Raw} (hchosen : chosen = some p) (hraw : p.Stores d raw) :
      Supplied r env chosen d raw

/-- Each raw value that the environment or the selected profile supplies is cast. -/
theorem Raw.Supplied.exists_supply (h : r.Consistent) (hd : d ∈ r.definitions)
    {chosen : Option Profile} {raw : Raw} (hraw : raw.Supplied r env chosen d) :
    ∃ supply ∈ supplies r (storedValues r chosen) env .empty d,
      supply.outcome = d.cast r.home raw := by
  unfold supplies
  cases hraw with
  | @environment text htext =>
    refine ⟨⟨.environment, d.cast r.home (.text text)⟩, ?_, rfl⟩
    rw [htext.lookup?_eq]
    simp
  | @profile p raw hchosen hstores =>
    refine ⟨⟨.profile, d.cast r.home raw⟩, ?_, rfl⟩
    have hget : (storedValues r chosen).get? d.name = some raw := by
      rw [hchosen]
      exact (Profile.get?_effective_eq_some_iff h hd).mpr hstores
    rw [hget]
    simp

/-- Numbers that are not finite come into a snapshot as such numbers stored in a profile, and in no
other way. After a resolution without overrides, and after profiles are layered on it, the entry of
a setting for numbers whose value some layer or template gives holds a finite number, exactly unless
the value comes from a profile that stores a number that is not finite. Any other value whose text
is refused as a number is refused in every layer. -/
theorem float_entries_finite {envPrefix : String} {home : Home} {definitions : List Definition}
    (hbuild : Registry.build envPrefix home definitions = .ok r) (hd : d ∈ r.definitions)
    (hkind : d.kind = .float) :
    (∀ env c profile, ∀ s : Settings, resolve r env c profile .empty = .ok s →
      ∃ chosen, c.Selects profile chosen ∧ s.Stacked r env chosen.toList) ∧
    (∀ env profiles, ∀ s : Settings, s.Stacked r env profiles → ∀ e, s.get? d.name = some e →
      e.source ≠ .default ∨ d.template?.isSome = true →
        (e.HoldsFinite ↔ ¬ (e.source = .profile ∧
          ∃ raw, Profile.FirstStored d profiles raw ∧ raw.IsNonFinite))) ∧
    ∀ raw : Raw, Kind.float.cast r.home (.text raw.toText) = .error .notFloat →
      ¬ raw.IsNonFinite →
        (∀ env c profile chosen, c.Selects profile chosen → raw.Supplied r env chosen d →
          ∃ failures, resolve r env c profile .empty = .error (.validation failures) ∧
            ⟨d.name, .notFloat⟩ ∈ failures) ∧
        ∀ (s : Settings) (e : Entry) (p : Profile), s.get? d.name = some e →
          e.source = .default ∨ e.source = .profile → p.Stores d raw →
            ∃ failures, s.layerProfile r p = .error (.validation failures) ∧
              ⟨d.name, .notFloat⟩ ∈ failures := by
  obtain ⟨-, h⟩ := Registry.consistent_of_build hbuild
  refine ⟨fun env c profile s hok => ?_, fun env profiles s hs e hget => ?_,
    fun raw htext hraw => ?_⟩
  · obtain ⟨chosen, _, hchosen, -⟩ := resolve_eq_ok hok
    have hselects := selects_of_chosenProfile hchosen
    exact ⟨chosen, hselects, .resolved hselects hok⟩
  · exact (hs.comesFrom h hd hget).holdsFinite_iff hkind
  · have hrefused : d.cast r.home raw = .error .notFloat :=
      Definition.cast_of_toFloat?_eq_none hkind
        (toFloat?_eq_none_of_toText (Kind.cast_float_eq_error_iff.mp htext) hraw)
    refine ⟨fun env c profile chosen hchosen hsupplied => ?_, fun s e p hget hsource hstores => ?_⟩
    · obtain ⟨supply, hmem, houtcome⟩ := hsupplied.exists_supply h hd
      exact resolve_of_refused hd hchosen hmem (houtcome.trans hrefused)
    · exact layerProfile_of_refused h hd hget hsource hstores hrefused

/-- One setting for a number, without a default and without a check. -/
def limitCatalog : List Definition := [{ name := "LIMIT", kind := .float }]

/-- A profile that stores an infinite limit. -/
def unlimited : Profile := ⟨Collection.defaultName, .ofList [("LIMIT", .float (.infinite false))]⟩

/-- The limit can be built. -/
theorem build_limitCatalog :
    Registry.build "" none limitCatalog = .ok ⟨"", none, limitCatalog⟩ := by
  have hsound : (Registry.mk "" none limitCatalog).fault? = none := by decide +kernel
  simp only [Registry.build, hsound, Option.elim_none]

/-- A limit that is read from text is finite, and one that is then layered on it as a number that is
not finite takes its place. -/
theorem float_entries_finite_of_limit :
    ∃ r limit low s l e f, Registry.build "" none limitCatalog = .ok r ∧ limit ∈ r.definitions ∧
      limit.kind = .float ∧ Profile.Stores low limit (.text " 1e3 ") ∧
      resolve r .empty ⟨[low], none⟩ (some "default") .empty = .ok s ∧
      s.layerProfile r unlimited = .ok l ∧
      s.get? "LIMIT" = some e ∧ e.source = .profile ∧ e.HoldsFinite ∧
      l.get? "LIMIT" = some f ∧ f.source = .profile ∧ ¬ f.HoldsFinite ∧
      ∃ failures, resolve r (.ofList [("LIMIT", "inf")]) ⟨[low], none⟩ none .empty =
        .error (.validation failures) ∧ ⟨"LIMIT", .notFloat⟩ ∈ failures := by
  let limit := limitCatalog[0]
  let low : Profile := ⟨Collection.defaultName, .ofList [("LIMIT", .text " 1e3 ")]⟩
  let e : Entry := ⟨"LIMIT", some (.float (Binary64.ofDecimal ⟨false, 1, 3⟩)), .profile⟩
  let f : Entry := ⟨"LIMIT", some (.float (.infinite false)), .profile⟩
  have hlow : low.Stores limit (.text " 1e3 ") := .named rfl
  have hhigh : unlimited.Stores limit (.float (.infinite false)) := .named rfl
  have hs : resolve ⟨"", none, limitCatalog⟩ .empty ⟨[low], none⟩ (some "default") .empty =
      .ok ⟨[e]⟩ := by decide +kernel
  have hl : Settings.layerProfile ⟨[e]⟩ ⟨"", none, limitCatalog⟩ unlimited = .ok ⟨[f]⟩ := by
    decide +kernel
  have hsupplied : Environment.Supplies (.ofList [("LIMIT", "inf")]) ⟨"", none, limitCatalog⟩ limit
      "inf" := .named (by decide +kernel)
  have hrefused : Kind.float.cast none (.text "inf") = .error .notFloat := by decide +kernel
  have htext : ∀ text, ¬ (Raw.text text).IsNonFinite := by
    rintro text ⟨x, hx, -⟩
    cases hx
  obtain ⟨-, hfinite, hrefuses⟩ :=
    float_entries_finite build_limitCatalog (d := limit) List.mem_cons_self rfl
  have hstacked : Settings.Stacked ⟨"", none, limitCatalog⟩ .empty [low] ⟨[e]⟩ :=
    .resolved (.named rfl) hs
  have he : e.HoldsFinite := by
    refine (hfinite _ _ _ hstacked e rfl (Or.inl (by decide))).mpr ?_
    rintro ⟨-, raw, hraw, hnot⟩
    exact htext _ (hraw.unique (.here hlow) ▸ hnot)
  have hf : ¬ f.HoldsFinite := fun hholds =>
    (hfinite _ _ _ (hstacked.layered hl) f rfl (Or.inl (by decide))).mp hholds
      ⟨rfl, _, .here hhigh, _, rfl, rfl⟩
  obtain ⟨hresolve, -⟩ := hrefuses (.text "inf") hrefused (htext "inf")
  exact ⟨_, limit, low, _, _, e, f, build_limitCatalog, List.mem_cons_self, rfl, hlow, hs, hl, rfl,
    rfl, he, rfl, rfl, hf, hresolve _ _ _ _ (.nothing rfl) (.environment hsupplied)⟩

/-- An infinite number that a profile stores as such gets in, though its text is refused. -/
theorem stored_infinity_gets_in :
    ∃ r s e, Registry.build "" none limitCatalog = .ok r ∧
      resolve r .empty ⟨[unlimited], none⟩ (some "default") .empty = .ok s ∧
      s.get? "LIMIT" = some e ∧ e.source ≠ .default ∧ ¬ e.HoldsFinite ∧
      Kind.float.cast r.home (.text (Raw.float (.infinite false)).toText) = .error .notFloat := by
  let e : Entry := ⟨"LIMIT", some (.float (.infinite false)), .profile⟩
  have hs : resolve ⟨"", none, limitCatalog⟩ .empty ⟨[unlimited], none⟩ (some "default") .empty =
      .ok ⟨[e]⟩ := by decide +kernel
  have he : ¬ e.HoldsFinite := by
    rintro ⟨x, hx, hfinite⟩
    cases hx
    cases hfinite
  exact ⟨_, _, e, build_limitCatalog, hs, rfl, by decide, he, by decide +kernel⟩

end LayeredSettings
