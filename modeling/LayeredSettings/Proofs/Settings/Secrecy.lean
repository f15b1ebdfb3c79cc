import LayeredSettings.Proofs.Profile.Operations
import LayeredSettings.Proofs.Registry.Variables
import LayeredSettings.Proofs.Settings.Precedence
import LayeredSettings.Proofs.Settings.Validity

/-!
# What the settings in effect tell of secrets

Two resolutions from sources that differ only in secrets are compared setting by setting. A setting
that is no secret reads nothing that differs, as long as no template carries a secret into it, so it
holds the same in both. A secret has a value from the same layer in both, and where the values
differ each is one that is masked.
-/

namespace LayeredSettings

namespace NameMap

variable {α : Type} {hidden : String → Prop} {m n : NameMap α}

/-- Maps of the same names, with the same values under all names but hidden ones. -/
structure SameBut (hidden : String → Prop) (m n : NameMap α) : Prop where
  /-- The same names are bound. -/
  contains_eq : ∀ key, m.contains key = n.contains key
  /-- Names that are not hidden are bound to the same value. -/
  get?_eq : ∀ key, ¬ hidden key → m.get? key = n.get? key

/-- Bindings of one name, to one value unless the name is hidden. -/
def SameBinding (hidden : String → Prop) (a b : String × α) : Prop :=
  a.1 = b.1 ∧ (¬ hidden a.1 → a.2 = b.2)

/-- A map is the same as itself. -/
theorem SameBut.refl (m : NameMap α) : m.SameBut hidden m := ⟨fun _ => rfl, fun _ _ => rfl⟩

/-- Maps stay the same when a hidden name is bound to any values, or another to one value. -/
theorem SameBut.insert (h : m.SameBut hidden n) {key : String} {v w : α}
    (hvalue : ¬ hidden key → v = w) : (m.insert key v).SameBut hidden (n.insert key w) where
  contains_eq other := by
    unfold contains
    rw [get?_insert, get?_insert]
    split
    · rfl
    · exact h.contains_eq other
  get?_eq other hother := by
    rw [get?_insert, get?_insert]
    split
    · next heq => rw [hvalue (heq ▸ hother)]
    · exact h.get?_eq other hother

/-- The names stand in the same order. -/
theorem SameBut.keys_eq (h : m.SameBut hidden n) : m.keys = n.keys := by
  have hmem : ∀ key, key ∈ m.keys ↔ key ∈ n.keys := by
    intro key
    have hcontains := h.contains_eq key
    unfold contains at hcontains
    rw [← not_iff_not, ← get?_eq_none_iff, ← get?_eq_none_iff, ← Option.not_isSome_iff_eq_none,
      hcontains, Option.not_isSome_iff_eq_none]
  have hm : m.keys.Pairwise (· < ·) := List.pairwise_map.mpr m.sorted
  have hn : n.keys.Pairwise (· < ·) := List.pairwise_map.mpr n.sorted
  have hperm := (List.perm_ext_iff_of_nodup m.nodup_keys n.nodup_keys).mpr hmem
  exact hperm.eq_of_pairwise (fun _ _ _ _ hlt hgt => (lt_asymm hlt hgt).elim) hm hn

/-- The maps have the same bindings but for values under hidden names. -/
theorem SameBut.forall₂ (h : m.SameBut hidden n) :
    List.Forall₂ (SameBinding hidden) m.entries n.entries := by
  refine forall₂_of_map_eq h.keys_eq fun a ha b hb hkey => ⟨hkey, fun hnot => ?_⟩
  have hget := h.get?_eq a.1 hnot
  rw [m.get?_eq_some_iff.mpr ha, hkey, n.get?_eq_some_iff.mpr hb] at hget
  exact Option.some.inj hget

/-- What is told of the bindings is the same if it does not depend on values under hidden names. -/
theorem SameBut.map_entries_eq {β : Type} (h : m.SameBut hidden n) {f : String → α → β}
    (hf : ∀ key v w, hidden key → f key v = f key w) :
    (m.entries.map fun (key, v) => f key v) = n.entries.map fun (key, v) => f key v := by
  refine map_eq_of_forall₂ h.forall₂ fun a b hab => ?_
  obtain ⟨key, v⟩ := a
  obtain ⟨other, w⟩ := b
  obtain ⟨hkey, hvalue⟩ := hab
  cases hkey
  by_cases hhidden : hidden key
  · exact hf key v w hhidden
  · exact congrArg (f key) (hvalue hhidden)

/-- Lists of bindings that are the same but for hidden ones make maps of that sort. -/
theorem sameBut_ofList {l l' : List (String × α)}
    (hl : List.Forall₂ (SameBinding hidden) l l') : (ofList l).SameBut hidden (ofList l') := by
  refine List.rel_foldl (fun m n hmn a b hab => ?_) (SameBut.refl empty) hl
  obtain ⟨key, v⟩ := a
  obtain ⟨other, w⟩ := b
  obtain ⟨hkey, hvalue⟩ := hab
  cases hkey
  exact hmn.insert hvalue

end NameMap

variable {r : Registry} {d : Definition}

/-- The key belongs to a secret. -/
def Registry.SecretKey (r : Registry) (key : String) : Prop :=
  ∃ d, r.find? key = some d ∧ d.kind = .secret

/-- The variable is bound to secrets only. -/
def Registry.SecretVariable (r : Registry) (name : String) : Prop :=
  ∀ d ∈ r.definitions, name ∈ r.variableNames d → d.kind = .secret

/-- No template of a setting that is no secret refers to a secret. -/
def Registry.Guarded (r : Registry) : Prop :=
  ∀ d ∈ r.definitions, d.kind ≠ .secret → ∀ reference ∈ d.references, ¬ r.SecretKey reference

/-- A key that belongs to a setting belongs to a secret if the setting is one. -/
theorem Registry.secretKey_iff {key : String} (hfind : r.find? key = some d) :
    r.SecretKey key ↔ d.kind = .secret := by
  unfold SecretKey
  rw [hfind]
  simp

/-- The name of a setting belongs to a secret if the setting is one. -/
theorem Registry.Consistent.secretKey_name_iff (h : r.Consistent) (hd : d ∈ r.definitions) :
    r.SecretKey d.name ↔ d.kind = .secret :=
  secretKey_iff (h.find?_eq_some_iff.mpr ⟨hd, List.mem_cons_self⟩)

/-- The name of a setting belongs to a secret if one of its keys does. -/
theorem Registry.Consistent.secretKey_name (h : r.Consistent) {key : String}
    (hfind : r.find? key = some d) (hsecret : r.SecretKey key) : r.SecretKey d.name :=
  (h.secretKey_name_iff (h.find?_eq_some_iff.mp hfind).1).mpr ((secretKey_iff hfind).mp hsecret)

/-- What a profile stores; nothing if there is none. -/
def Profile.storedBy (chosen : Option Profile) : NameMap Raw := (chosen.map settings).getD .empty

section Canonical

variable (h : r.Consistent)
include h

/-- A stored value put under the name of its setting keeps maps the same but for secrets. -/
private theorem sameBut_addEffective {m n : NameMap Raw} (hmn : m.SameBut r.SecretKey n)
    {key : String} {v w : Raw} (hvalue : ¬ r.SecretKey key → v = w) :
    (Profile.addEffective r m (key, v)).SameBut r.SecretKey
      (Profile.addEffective r n (key, w)) := by
  unfold Profile.addEffective
  cases hfind : r.find? key with
  | none => exact hmn
  | some d =>
    dsimp only
    rw [hmn.contains_eq d.name]
    split
    · exact hmn.insert fun hnot => hvalue (mt (h.secretKey_name hfind) hnot)
    · exact hmn

/-- What is stored under whatever keys is the same but for secrets under the settings' own names,
too. -/
theorem sameBut_storedValues {chosen chosen' : Option Profile}
    (hsame : (Profile.storedBy chosen).SameBut r.SecretKey (Profile.storedBy chosen')) :
    (storedValues r chosen).SameBut r.SecretKey (storedValues r chosen') := by
  have hfold (chosen : Option Profile) : storedValues r chosen =
      (Profile.storedBy chosen).entries.foldl (Profile.addEffective r) .empty := by
    cases chosen <;> rfl
  rw [hfold, hfold]
  refine List.rel_foldl (fun m n hmn a b hab => ?_) (.refl .empty) hsame.forall₂
  obtain ⟨key, v⟩ := a
  obtain ⟨other, w⟩ := b
  obtain ⟨hkey, hvalue⟩ := hab
  cases hkey
  exact sameBut_addEffective h hmn hvalue

/-- Overrides put under the names of their settings one by one are the same but for secrets. -/
private theorem forall₂_of_mapM_lookup {l l' named named' : List (String × Value)}
    (hl : List.Forall₂ (NameMap.SameBinding r.SecretKey) l l')
    (hok : l.mapM (fun (key, value) => do return ((← r.lookup key).name, value)) = .ok named)
    (hok' : l'.mapM (fun (key, value) => do return ((← r.lookup key).name, value)) = .ok named') :
    List.Forall₂ (NameMap.SameBinding r.SecretKey) named named' := by
  induction hl generalizing named named' with
  | nil =>
    cases hok
    cases hok'
    exact .nil
  | @cons a b rest rest' hab _ ih =>
    obtain ⟨key, v⟩ := a
    obtain ⟨other, w⟩ := b
    obtain ⟨hkey, hvalue⟩ := hab
    cases hkey
    rw [List.mapM_cons] at hok hok'
    obtain ⟨head, hhead, hok⟩ := bind_eq_ok hok
    obtain ⟨tail, htail, hok⟩ := bind_eq_ok hok
    obtain ⟨head', hhead', hok'⟩ := bind_eq_ok hok'
    obtain ⟨tail', htail', hok'⟩ := bind_eq_ok hok'
    obtain ⟨d, hd, hpair⟩ := bind_eq_ok hhead
    obtain ⟨d', hd', hpair'⟩ := bind_eq_ok hhead'
    have hsame : d' = d := Except.ok.inj (hd'.symm.trans hd)
    subst hsame
    cases hpair
    cases hpair'
    cases hok
    cases hok'
    have hfind := Registry.lookup_eq_ok_iff.mp hd
    exact .cons ⟨rfl, fun hnot => hvalue (mt (h.secretKey_name hfind) hnot)⟩ (ih htail htail')

/-- Overrides under whatever keys are the same but for secrets under the settings' own names too. -/
theorem sameBut_canonicalOverrides {overrides others : Overrides}
    (hsame : overrides.SameBut r.SecretKey others) {named named' : NameMap Value}
    (hok : canonicalOverrides r overrides = .ok named)
    (hok' : canonicalOverrides r others = .ok named') : named.SameBut r.SecretKey named' := by
  obtain ⟨l, hl, hnamed⟩ := bind_eq_ok hok
  obtain ⟨l', hl', hnamed'⟩ := bind_eq_ok hok'
  cases hnamed
  cases hnamed'
  exact NameMap.sameBut_ofList (forall₂_of_mapM_lookup h hsame.forall₂ hl hl')

end Canonical

/-- The text bound to a setting that is no secret is the same if only secrets differ. -/
theorem lookup?_eq_of_sameBut {env env' : Environment} (henv : env.SameBut r.SecretVariable env')
    (hd : d ∈ r.definitions) (hpublic : d.kind ≠ .secret) :
    env.lookup? r d = env'.lookup? r d := by
  refine Environment.lookup?_congr fun name hname => henv.get?_eq name fun hsecret => ?_
  exact hpublic (hsecret d hd hname)

/-- The same settings are bound if only secrets differ. -/
theorem isSome_lookup?_eq_of_sameBut {env env' : Environment}
    (henv : env.SameBut r.SecretVariable env') (d : Definition) :
    (env.lookup? r d).isSome = (env'.lookup? r d).isSome := by
  unfold Environment.lookup?
  rw [List.isSome_findSome?, List.isSome_findSome?]
  exact congrArg _ (funext henv.contains_eq)

section Layers

variable {stored stored' : NameMap Raw} {env env' : Environment} {named named' : NameMap Value}
  (hstored : stored.SameBut r.SecretKey stored') (henv : env.SameBut r.SecretVariable env')
  (hnamed : named.SameBut r.SecretKey named')
include hstored henv hnamed

/-- The layers supply the same for a setting that is no secret. -/
theorem supplies_eq_of_sameBut (h : r.Consistent) (hd : d ∈ r.definitions)
    (hpublic : d.kind ≠ .secret) :
    supplies r stored env named d = supplies r stored' env' named' d := by
  have hname : ¬ r.SecretKey d.name := mt (h.secretKey_name_iff hd).mp hpublic
  unfold supplies
  rw [hstored.get?_eq _ hname, hnamed.get?_eq _ hname, lookup?_eq_of_sameBut henv hd hpublic]

/-- The same layers supply a value for a setting. -/
theorem map_source_supplies_eq_of_sameBut (d : Definition) :
    (supplies r stored env named d).map (·.source) =
      (supplies r stored' env' named' d).map (·.source) := by
  have hsources (stored : NameMap Raw) (env : Environment) (named : NameMap Value) :
      (supplies r stored env named d).map (·.source) =
        (if stored.contains d.name then [.profile] else []) ++
          (if (env.lookup? r d).isSome then [.environment] else []) ++
            (if named.contains d.name then [.override] else []) := by
    unfold supplies NameMap.contains
    cases stored.get? d.name <;> cases env.lookup? r d <;> cases named.get? d.name <;> rfl
  rw [hsources, hsources, hstored.contains_eq, hnamed.contains_eq,
    isSome_lookup?_eq_of_sameBut henv]

end Layers

/-- Entries that are one, or that hold secrets from the same layer under one name. -/
inductive Entry.Resembles : Entry → Entry → Prop
  | same (e : Entry) : Resembles e e
  | secrets (name text other : String) (source : Source) :
      Resembles ⟨name, some (.secret text), source⟩ ⟨name, some (.secret other), source⟩

/-- Snapshots whose entries resemble one another, one by one. -/
def Settings.Resembles (s t : Settings) : Prop :=
  List.Forall₂ Entry.Resembles s.entries t.entries

/-- A value that passes the check of a secret is one. -/
theorem Definition.exists_eq_secret (hkind : d.kind = .secret) {value : Value}
    (hvalid : d.validate value = .ok ()) : ∃ text, value = .secret text := by
  unfold validate at hvalid
  rw [hkind] at hvalid
  cases value with
  | secret text => exact ⟨text, rfl⟩
  | _ => cases hvalid

/-- Secrets that come from the same layers resemble one another before templates are filled. -/
theorem resembles_mergedEntry (d : Definition) {supplied others : List Supply}
    (hsources : supplied.map (·.source) = others.map (·.source))
    (hsupplied : ∀ supply ∈ supplied, ∃ text, supply.outcome = .ok (.secret text))
    (hothers : ∀ supply ∈ others, ∃ text, supply.outcome = .ok (.secret text)) :
    (mergedEntry d supplied).Resembles (mergedEntry d others) := by
  rcases List.eq_nil_or_concat' supplied with rfl | ⟨lower, last, rfl⟩
  · rw [List.map_eq_nil_iff.mp hsources.symm]
    exact .same _
  · rcases List.eq_nil_or_concat' others with rfl | ⟨lower', last', rfl⟩
    · simp at hsources
    · obtain ⟨text, htext⟩ := hsupplied last (by simp)
      obtain ⟨other, hother⟩ := hothers last' (by simp)
      have hlast : last = ⟨last.source, .ok (.secret text)⟩ := by rw [← htext]
      have hlast' : last' = ⟨last.source, .ok (.secret other)⟩ := by
        have hsource : last.source = last'.source := by
          rw [List.map_append, List.map_append] at hsources
          exact List.singleton_inj.mp (List.append_inj' hsources rfl).2
        rw [hsource, ← hother]
      rw [hlast, hlast', mergedEntry_concat, mergedEntry_concat]
      exact .secrets d.name text other last.source

/-- Entries that resemble one another come from the same layer. -/
theorem Entry.Resembles.source_eq {e f : Entry} (hef : e.Resembles f) : e.source = f.source := by
  cases hef <;> rfl

/-- Settings that are no secrets draw on none, if templates are guarded. -/
theorem not_drawsOn_of_guarded (h : r.Consistent) (hguarded : r.Guarded) {s : Settings}
    (hd : d ∈ r.definitions) : ¬ s.DrawsOn r (·.kind = .secret) d := by
  intro hdraws
  induction hdraws with
  | @direct d target hpublic hrefers hsecret =>
    obtain ⟨-, reference, href, hfind⟩ := hrefers
    exact hguarded d hd hpublic reference href ((Registry.secretKey_iff hfind).mpr hsecret)
  | @through d target _ hrefers _ ih =>
    obtain ⟨-, reference, -, hfind⟩ := hrefers
    exact ih (h.find?_eq_some_iff.mp hfind).1

section Expanded

variable {stored stored' : NameMap Raw} {env env' : Environment} {named named' : NameMap Value}
  {s t : Settings} (h : r.Consistent)
  (hstored : stored.SameBut r.SecretKey stored') (henv : env.SameBut r.SecretVariable env')
  (hnamed : named.SameBut r.SecretKey named')
  (hs : expandTemplates r (mergedEntries r stored env named) = .ok s.entries)
  (ht : expandTemplates r (mergedEntries r stored' env' named') = .ok t.entries)
include h hstored henv hnamed hs ht

/-- A setting that is no secret has one entry in both snapshots. -/
theorem get?_eq_of_sameBut (hguarded : r.Guarded) (hd : d ∈ r.definitions)
    (hpublic : d.kind ≠ .secret) : s.get? d.name = t.get? d.name := by
  refine Settings.get?_eq_of_not_drawsOn h (map_name_mergedEntries _ _ _)
    (map_name_mergedEntries _ _ _) hs ht (fun e he hpublic => ?_) hd hpublic
    (not_drawsOn_of_guarded h hguarded hd)
  rw [get?_mergedEntries h he, get?_mergedEntries h he,
    supplies_eq_of_sameBut hstored henv hnamed h he hpublic]

/-- A secret has entries in both snapshots that resemble one another. -/
theorem resembles_of_secret (hd : d ∈ r.definitions) (hsecret : d.kind = .secret)
    (hfits : ∀ supply ∈ supplies r stored env named d, ∃ value, supply.outcome = .ok value)
    (hfits' : ∀ supply ∈ supplies r stored' env' named' d, ∃ value, supply.outcome = .ok value)
    {e f : Entry} (he : s.get? d.name = some e) (hf : t.get? d.name = some f) :
    e.Resembles f := by
  have hnames := map_name_mergedEntries (r := r) stored env named
  have hnames' := map_name_mergedEntries (r := r) stored' env' named'
  have hsupplied {stored : NameMap Raw} {env : Environment} {named : NameMap Value}
      (hfits : ∀ supply ∈ supplies r stored env named d, ∃ value, supply.outcome = .ok value) :
      ∀ supply ∈ supplies r stored env named d, ∃ text, supply.outcome = .ok (.secret text) := by
    intro supply hmem
    obtain ⟨value, hvalue⟩ := hfits supply hmem
    obtain ⟨text, rfl⟩ := d.exists_eq_secret hsecret (validate_of_mem_supplies hmem hvalue)
    exact ⟨text, hvalue⟩
  have hmerged := resembles_mergedEntry d
    (map_source_supplies_eq_of_sameBut hstored henv hnamed d) (hsupplied hfits) (hsupplied hfits')
  have hopens : Expansion.isOpen (mergedEntries r stored env named) d ↔
      Expansion.isOpen (mergedEntries r stored' env' named') d := by
    rw [isOpen_iff_get? (hnames ▸ h.nodup_names), isOpen_iff_get? (hnames' ▸ h.nodup_names),
      get?_mergedEntries h hd, get?_mergedEntries h hd]
    simp [hmerged.source_eq]
  by_cases hopen : Expansion.isOpen (mergedEntries r stored env named) d
  · obtain ⟨value, hvalue, hcast⟩ := get?_of_isOpen h hnames hs hd hopen
    obtain ⟨other, hother, hcast'⟩ := get?_of_isOpen h hnames' ht hd (hopens.mp hopen)
    obtain ⟨text, rfl⟩ := d.exists_eq_secret hsecret (Definition.validate_of_cast hcast)
    obtain ⟨text', rfl⟩ := d.exists_eq_secret hsecret (Definition.validate_of_cast hcast')
    rw [Option.some.inj (he.symm.trans hvalue), Option.some.inj (hf.symm.trans hother)]
    exact .secrets d.name text text' .default
  · rw [get?_of_not_isOpen h hnames hs hd hopen, get?_mergedEntries h hd] at he
    rw [get?_of_not_isOpen h hnames' ht hd (mt hopens.mpr hopen), get?_mergedEntries h hd] at hf
    rw [← Option.some.inj he, ← Option.some.inj hf]
    exact hmerged

end Expanded

/-- What settings are resolved from. -/
structure Inputs where
  env : Environment
  profiles : Collection
  profile : Option String
  overrides : Overrides

namespace Inputs

/-- The settings in effect. -/
def resolve (i : Inputs) (r : Registry) : Except SettingsError Settings :=
  LayeredSettings.resolve r i.env i.profiles i.profile i.overrides

/-- The name of the selected profile: the one asked for, else the active one. -/
def profileName? (i : Inputs) : Option String := i.profile.or i.profiles.activeName?

/-- What the selected profile stores; nothing without one. -/
def stored (i : Inputs) : NameMap Raw :=
  Profile.storedBy (i.profileName?.bind i.profiles.get?)

/-- Inputs that give values for the same variables and keys, and the same values but for secrets. -/
structure SameButSecrets (r : Registry) (i j : Inputs) : Prop where
  /-- Variables differ only if no setting but secrets is bound to them. -/
  env : i.env.SameBut r.SecretVariable j.env
  /-- The selected profile has the same name. -/
  profileName : i.profileName? = j.profileName?
  /-- Stored values differ only under keys of secrets. -/
  stored : i.stored.SameBut r.SecretKey j.stored
  /-- Overrides differ only under keys of secrets. -/
  overrides : i.overrides.SameBut r.SecretKey j.overrides

/-- The profile that is read is the selected one. -/
theorem stored_eq {i : Inputs} {chosen : Option Profile}
    (hok : chosenProfile i.profiles i.profile = .ok chosen) :
    i.stored = Profile.storedBy chosen := by
  have hchosen : chosen = i.profileName?.bind i.profiles.get? := by
    unfold profileName?
    cases hprofile : i.profile with
    | none =>
      rw [hprofile] at hok
      exact (Except.ok.inj hok).symm
    | some name =>
      rw [hprofile] at hok
      obtain ⟨p, hp, hsome⟩ := bind_eq_ok hok
      cases hsome
      exact (Collection.require_eq_ok_iff.mp hp).symm
  rw [stored, hchosen]

/-- Snapshots resolved from inputs that differ only in secrets resemble one another. -/
theorem SameButSecrets.resembles (h : r.Consistent) (hguarded : r.Guarded) {i j : Inputs}
    (hij : i.SameButSecrets r j) {s t : Settings} (hs : i.resolve r = .ok s)
    (ht : j.resolve r = .ok t) : s.Resembles t := by
  obtain ⟨chosen, named, hchosen, hnamed, hfits, hs⟩ := resolve_eq_ok hs
  obtain ⟨chosen', named', hchosen', hnamed', hfits', ht⟩ := resolve_eq_ok ht
  have hstored := hij.stored
  rw [stored_eq hchosen, stored_eq hchosen'] at hstored
  have hstored := sameBut_storedValues h hstored
  have hnamed := sameBut_canonicalOverrides h hij.overrides hnamed hnamed'
  obtain ⟨horder, -, -⟩ := solves_of_expandTemplates h (map_mergedEntry_name _) hs
  obtain ⟨horder', -, -⟩ := solves_of_expandTemplates h (map_mergedEntry_name _) ht
  refine forall₂_of_map_eq (horder.trans horder'.symm) fun e he f hf hname => ?_
  obtain ⟨d, hd, hdname, hefound⟩ := Settings.exists_definition_of_mem h horder he
  have hffound : t.get? d.name = some f :=
    (Settings.get?_eq_some_iff (horder' ▸ h.nodup_names)).mpr ⟨hf, hname.symm.trans hdname⟩
  by_cases hsecret : d.kind = .secret
  · exact resembles_of_secret h hstored hij.env hnamed hs ht hd hsecret (hfits d hd) (hfits' d hd)
      hefound hffound
  · have hsame := get?_eq_of_sameBut h hstored hij.env hnamed hs ht hguarded hd hsecret
    rw [Option.some.inj (hefound.symm.trans (hsame.trans hffound))]
    exact .same f

end Inputs

end LayeredSettings
