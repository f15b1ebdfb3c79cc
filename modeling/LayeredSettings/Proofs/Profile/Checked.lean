import LayeredSettings.Proofs.Profile.Assignment
import LayeredSettings.Proofs.Profile.Editing
import LayeredSettings.Proofs.Registry.PlainTemplates
import LayeredSettings.Proofs.Settings.Layering

/-!
# Profiles that are checked resolve

A profile fits a registry if it stores values of known settings only that their settings take. What
is added with a check fits, and what an update stores fits, so all profiles of a collection fit that
was never changed in another way. Such a profile gives a resolution nothing to refuse.
-/

namespace LayeredSettings

variable {r : Registry} {settings : NameMap Raw}

/-- Every stored key is known, and its setting takes the stored value. -/
def Registry.Fits (r : Registry) (settings : NameMap Raw) : Prop :=
  ∀ entry ∈ settings.entries, ∃ d, r.find? entry.1 = some d ∧
    ∃ value, d.cast r.home entry.2 = .ok value

/-- All profiles of a collection fit. -/
def Collection.Fits (c : Collection) (r : Registry) : Prop :=
  ∀ p ∈ c.profiles, r.Fits p.settings

/-- An operation that checks what it stores against a registry, if it stores anything. -/
def Operation.Checks (r : Registry) : Operation → Prop
  | .add _ | .copy .. => False
  | .addChecked r' _ | .copyChecked r' .. | .set r' .. | .unset r' .. | .update r' .. => r' = r
  | .remove _ | .rename .. | .setActive _ => True

namespace Registry.Fits

variable {d : Definition}

/-- Nothing is stored that does not fit. -/
theorem empty (r : Registry) : r.Fits .empty := fun entry hentry => by cases hentry

/-- Some of the stored values fit if all do. -/
theorem erase (h : r.Fits settings) (key : String) : r.Fits (settings.erase key) :=
  fun entry hentry => h entry (List.mem_of_mem_filter hentry)

/-- A value that a setting takes fits under the name of the setting. -/
theorem insert (hr : r.Consistent) (h : r.Fits settings) (hd : d ∈ r.definitions) {raw : Raw}
    {value : Value} (hcast : d.cast r.home raw = .ok value) :
    r.Fits (settings.insert d.name raw) := by
  intro entry hentry
  rcases NameMap.mem_insertEntry hentry with rfl | hentry
  · exact ⟨d, hr.find?_eq_some_iff.mpr ⟨hd, List.mem_cons_self⟩, value, hcast⟩
  · exact h entry hentry

/-- A stored value stays fitting when the value of a setting is replaced by one that it takes. -/
theorem replace (hr : r.Consistent) (h : r.Fits settings) (hd : d ∈ r.definitions) {raw : Raw}
    {value : Value} (hcast : d.cast r.home raw = .ok value) :
    r.Fits (Collection.replace r settings d raw) := by
  unfold Collection.replace
  cases Profile.storedKey? r settings d.name with
  | none => exact h.insert hr hd hcast
  | some stored => exact (h.erase stored).insert hr hd hcast

/-- What is left after a batch of removals fits. -/
theorem of_removeAll {profile : String} {unsets : List (Definition × String)}
    {kept : NameMap Raw} (h : r.Fits settings)
    (hok : Collection.removeAll r profile settings unsets = .ok kept) : r.Fits kept := by
  induction unsets generalizing settings with
  | nil =>
    cases hok
    exact h
  | cons unset rest ih =>
    unfold Collection.removeAll at hok
    split at hok
    · cases hok
    · next stored _ => exact ih (h.erase stored) hok

/-- After a batch of values that their settings take the stored values fit. -/
theorem foldl_replace (hr : r.Consistent) {sets : List (Definition × Raw)}
    (hknown : ∀ set ∈ sets, set.1 ∈ r.definitions)
    (hcasts : ∀ set ∈ sets, ∃ value, set.1.cast r.home set.2 = .ok value) (h : r.Fits settings) :
    r.Fits (sets.foldl (fun settings (d, raw) => Collection.replace r settings d raw)
      settings) := by
  induction sets generalizing settings with
  | nil => exact h
  | cons set rest ih =>
    obtain ⟨value, hcast⟩ := hcasts set List.mem_cons_self
    refine ih (fun other hother => hknown other (List.mem_cons_of_mem _ hother))
      (fun other hother => hcasts other (List.mem_cons_of_mem _ hother)) ?_
    exact h.replace hr (hknown set List.mem_cons_self) hcast

end Registry.Fits

/-- A profile passes the check exactly if it fits. -/
theorem Profile.validate_eq_ok_iff {p : Profile} {u : Unit} :
    p.validate r = .ok u ↔ r.Fits p.settings := by
  unfold validate failures
  rw [SettingsError.ofFailures_eq_ok_iff, List.filterMap_eq_nil_iff]
  refine forall₂_congr fun entry _ => ?_
  unfold entryFailure?
  cases r.find? entry.1 with
  | none => simp
  | some d => cases hcast : d.cast r.home entry.2 <;> simp [hcast]

namespace Collection

variable {c c' : Collection}

/-- A collection to which a profile that fits was added fits. -/
theorem Fits.addChecked (h : c.Fits r) {p : Profile} (hok : c.addChecked r p = .ok c') :
    c'.Fits r := by
  obtain ⟨_, hvalid, hadd⟩ := bind_eq_ok hok
  obtain ⟨-, rfl⟩ := add_eq_ok hadd
  intro q hq
  rcases List.mem_append.mp hq with hq | hq
  · exact h q hq
  · rw [List.mem_singleton.mp hq]
    exact Profile.validate_eq_ok_iff.mp hvalid

/-- What is found for a batch are definitions. -/
private theorem mem_definitions_of_finds {sets : List (String × Raw)}
    {found : List (Definition × Raw)} (hfound : r.Finds sets found) :
    ∀ set ∈ found, set.1 ∈ r.definitions := by
  have hall : List.Forall₂ (fun (set : Definition × Raw) (_ : String × Raw) =>
      set.1 ∈ r.definitions ∧ True) found sets :=
    hfound.flip.imp fun _ _ hset => ⟨List.mem_of_find?_eq_some hset.1, trivial⟩
  exact ((List.forall₂_and_left _ _).mp hall).1

/-- A collection after an update fits. -/
theorem Fits.update (hr : r.Consistent) (h : c.Fits r) {profile : String}
    {sets : List (String × Raw)} {unsets : List String} {applied : SettingsUpdate}
    (hok : c.update r profile sets unsets = .ok (applied, c')) : c'.Fits r := by
  obtain ⟨p, found, _, kept, hp, hfound, -, hkept, hbatch, -, rfl⟩ := update_eq_ok_iff.mp hok
  obtain ⟨hmem, -⟩ := mem_of_get? hp
  have hnew : r.Fits (found.foldl (fun settings (d, raw) => replace r settings d raw) kept) := by
    refine .foldl_replace hr (mem_definitions_of_finds hfound) ?_ ((h p hmem).of_removeAll hkept)
    intro set hset
    have hnone := List.filterMap_eq_nil_iff.mp hbatch set hset
    cases hcast : set.1.cast r.home set.2 with
    | ok value => exact ⟨value, rfl⟩
    | error reason => simp [hcast] at hnone
  intro q hq
  obtain ⟨before, hbefore, rfl⟩ := List.mem_map.mp hq
  split
  · exact hnew
  · exact h before hbefore

end Collection

/-- An operation that checks what it stores keeps a collection fitting. -/
theorem Operation.Checks.fits_of_apply (hr : r.Consistent) {op : Operation} (hop : op.Checks r)
    {c c' : Collection} (h : c.Fits r) (hok : op.apply c = .ok c') : c'.Fits r := by
  cases op with
  | add p => exact hop.elim
  | copy p name => exact hop.elim
  | addChecked r' p =>
    cases hop
    exact h.addChecked hok
  | copyChecked r' p name =>
    cases hop
    obtain ⟨q, -, hok⟩ := bind_eq_ok hok
    exact h.addChecked hok
  | remove name =>
    obtain ⟨⟨p, left⟩, hremove, hok⟩ := bind_eq_ok hok
    cases hok
    obtain ⟨p, -, hremove⟩ := bind_eq_ok hremove
    split at hremove
    · cases hremove
    · cases hremove
      exact fun q hq => h q (List.mem_of_mem_filter hq)
  | rename old new =>
    obtain ⟨p, -, hok⟩ := bind_eq_ok hok
    obtain ⟨name, -, hok⟩ := bind_eq_ok hok
    split at hok
    · cases hok
      exact h
    · split at hok
      · cases hok
      · cases hok
        intro q hq
        obtain ⟨before, hbefore, rfl⟩ := List.mem_map.mp hq
        split
        · exact h before hbefore
        · exact h before hbefore
  | setActive name =>
    cases name with
    | none =>
      cases hok
      exact h
    | some name =>
      obtain ⟨p, -, hok⟩ := bind_eq_ok hok
      cases hok
      exact h
  | set r' profile key raw =>
    cases hop
    obtain ⟨⟨applied, edited⟩, hupdate, hok⟩ := bind_eq_ok hok
    cases hok
    exact h.update hr hupdate
  | unset r' profile key =>
    cases hop
    obtain ⟨⟨applied, edited⟩, hupdate, hok⟩ := bind_eq_ok hok
    cases hok
    exact h.update hr hupdate
  | update r' profile sets unsets =>
    cases hop
    obtain ⟨⟨applied, edited⟩, hupdate, hok⟩ := bind_eq_ok hok
    cases hok
    exact h.update hr hupdate

/-- Operations that check what they store, performed one after another, keep a collection fitting,
whether they succeed or fail. -/
theorem Collection.Fits.after (hr : r.Consistent) {c : Collection} (hc : c.WellFormed)
    (h : c.Fits r) {history : List Operation} (hchecks : ∀ op ∈ history, op.Checks r) :
    (c.after history).Fits r := by
  induction history generalizing c with
  | nil => exact h
  | cons op rest ih =>
    refine ih (hc.perform op) ?_ fun other hother => hchecks other (List.mem_cons_of_mem _ hother)
    change (op.perform c).2.Fits r
    rw [Operation.perform_eq hc]
    cases hok : op.apply c with
    | error e => exact h
    | ok changed => exact (hchecks op List.mem_cons_self).fits_of_apply hr h hok

/-- What is stored in a profile that fits is cast without failure. -/
theorem exists_cast_of_fits (hr : r.Consistent) {d : Definition} (hd : d ∈ r.definitions)
    {p : Profile} (hp : r.Fits p.settings) {raw : Raw} (hstores : p.Stores d raw) :
    ∃ value, d.cast r.home raw = .ok value := by
  obtain ⟨key, hkey, hget⟩ := hstores.exists_key
  obtain ⟨found, hfind, hcast⟩ := hp _ (p.settings.get?_eq_some_iff.mp hget)
  have hsame := hr.find?_eq_some_iff.mpr ⟨hd, hkey⟩
  rwa [Option.some.inj (hfind.symm.trans hsame)] at hcast

/-- With no variables set and nothing overridden, what is supplied for a setting fits if the profile
does. -/
theorem exists_outcome_of_fits (hr : r.Consistent) {d : Definition} (hd : d ∈ r.definitions)
    {p : Profile} (hp : r.Fits p.settings) :
    ∀ supply ∈ supplies r (storedValues r (some p)) .empty .empty d,
      ∃ value, supply.outcome = .ok value := by
  have henv : Environment.lookup? .empty r d = none :=
    List.findSome?_eq_none_iff.mpr fun _ _ => rfl
  intro supply hsupply
  simp only [supplies, henv, NameMap.get?_empty, Option.map_none, Option.toList_none,
    List.append_nil, Option.mem_toList] at hsupply
  obtain ⟨raw, hraw, rfl⟩ := Option.map_eq_some_iff.mp hsupply
  exact exists_cast_of_fits hr hd hp (Profile.stores_of_get?_effective hr hd hraw)

/-- Plain templates are filled among any entries. -/
theorem exists_expanded_of_plain (hr : r.Consistent) (hplain : r.PlainTemplates)
    (entries : List Entry) : ∃ final, expandTemplates r entries = .ok final := by
  obtain ⟨rank, hrank⟩ := Registry.exists_rank hplain.acyclic
  have hranked : Expansion.Ranked r r.definitions rank := hrank
  refine Expansion.exists_final_of_casts hr (fun d hd => List.mem_of_mem_filter hd)
    (hranked.mono fun d hd => List.mem_of_mem_filter hd) (fun d hd text => ?_) rfl
  obtain ⟨hd, hopen⟩ := List.mem_filter.mp hd
  exact hplain.exists_cast hd (Bool.and_eq_true_iff.mp hopen).1 (.text text)

/-- A profile that fits resolves if templates are plain. -/
theorem exists_resolve_of_fits (hr : r.Consistent) (hplain : r.PlainTemplates) {c : Collection}
    (hc : c.Fits r) {name : String} (hname : name ∈ c.names) :
    ∃ s, resolve r .empty c (some name) .empty = .ok s := by
  obtain ⟨p, hp⟩ := Option.isSome_iff_exists.mp (Collection.contains_iff.mpr hname)
  obtain ⟨hmem, -⟩ := Collection.mem_of_get? hp
  have hchosen : chosenProfile c (some name) = .ok (some p) := by
    change (do return some (← c.require name)) = _
    rw [Collection.require_eq_ok_iff.mpr hp]
    rfl
  have hfailures : r.definitions.flatMap (fun d =>
      supplyFailures d (supplies r (storedValues r (some p)) .empty .empty d)) = [] :=
    List.flatMap_eq_nil_iff.mpr fun d hd =>
      supplyFailures_eq_nil_iff.mpr (exists_outcome_of_fits hr hd (hc p hmem))
  obtain ⟨entries, hentries⟩ := exists_expanded_of_plain hr hplain
    (mergedEntries r (storedValues r (some p)) .empty .empty)
  refine ⟨⟨entries⟩, ?_⟩
  unfold resolve
  rw [hchosen]
  change (do
    SettingsError.ofFailures (r.definitions.flatMap fun d =>
      supplyFailures d (supplies r (storedValues r (some p)) .empty .empty d))
    let entries ← expandTemplates r (mergedEntries r (storedValues r (some p)) .empty .empty)
    return (⟨entries⟩ : Settings)) = _
  rw [hfailures, hentries]
  rfl

/-- The built-in catalog has plain templates. Wherever a catalog has, all that the profiles of a
collection store is known, and each of them resolves, as long as nothing was stored in the
collection unchecked. -/
theorem checked_profiles_resolve :
    (∀ home, Registry.build builtinPrefix home builtinDefinitions = .ok (.builtin home) ∧
      (Registry.builtin home).PlainTemplates) ∧
    ∀ {envPrefix : String} {home : Home} {definitions : List Definition} {r : Registry},
      Registry.build envPrefix home definitions = .ok r → r.PlainTemplates →
      ∀ {start : Collection}, start = .withDefault ∨ start = .empty →
      ∀ {history : List Operation}, (∀ op ∈ history, op.Checks r) →
        let c := start.after history
        (∀ p ∈ c.profiles, ∀ key ∈ p.settings.keys, r.contains key) ∧
          ∀ name ∈ c.names, ∃ s, resolve r .empty c (some name) .empty = .ok s := by
  refine ⟨fun home => ⟨Registry.build_builtin home, Registry.plainTemplates_builtin home⟩, ?_⟩
  intro envPrefix home definitions r hbuild hplain start hstart history hchecks c
  obtain ⟨-, hr⟩ := Registry.consistent_of_build hbuild
  obtain ⟨hwell, hfits⟩ : start.WellFormed ∧ start.Fits r := by
    rcases hstart with rfl | rfl
    · refine ⟨Collection.Initial.withDefault.wellFormed, fun p hp => ?_⟩
      rw [List.mem_singleton.mp hp]
      exact .empty r
    · exact ⟨Collection.Initial.empty.wellFormed, fun p hp => absurd hp List.not_mem_nil⟩
  have hc : c.Fits r := hfits.after hr hwell hchecks
  refine ⟨fun p hp key hkey => ?_, fun name hname => exists_resolve_of_fits hr hplain hc hname⟩
  obtain ⟨entry, hentry, rfl⟩ := List.mem_map.mp hkey
  obtain ⟨d, hfind, -⟩ := hc p hp entry hentry
  simp [Registry.contains, hfind]

/-- A profile that stores a URL under an old name is copied, and the copy takes a home directory. -/
theorem checked_profiles_resolve_of_copy :
    let cloud : Profile := ⟨Collection.defaultName, .ofList [("PREFECT_CLOUD_URL", .text "cloud")]⟩
    let history : List Operation :=
      [.set (.builtin none) "default" "PREFECT_CLOUD_URL" (.text "cloud"),
        .copyChecked (.builtin none) cloud "dev",
        .update (.builtin none) "dev" [("PREFECT_HOME", .text "/srv")] ["PREFECT_CLOUD_API_URL"]]
    let c := Collection.withDefault.after history
    Registry.build builtinPrefix none builtinDefinitions = .ok (.builtin none) ∧
      (Registry.builtin none).PlainTemplates ∧ (∀ op ∈ history, op.Checks (.builtin none)) ∧
      c.profiles.map (fun p => (p.name.text, p.settings.keys)) =
        [("default", ["PREFECT_CLOUD_API_URL"]), ("dev", ["PREFECT_HOME"])] ∧
      (∀ p ∈ c.profiles, ∀ key ∈ p.settings.keys, (Registry.builtin none).contains key) ∧
      ∀ name ∈ c.names, ∃ s, resolve (.builtin none) .empty c (some name) .empty = .ok s := by
  intro cloud history c
  obtain ⟨hbuiltin, hresolve⟩ := checked_profiles_resolve
  obtain ⟨hbuild, hplain⟩ := hbuiltin none
  have hchecks : ∀ op ∈ history, op.Checks (.builtin none) := by
    intro op hop
    simp only [history, List.mem_cons, List.not_mem_nil, or_false] at hop
    rcases hop with rfl | rfl | rfl
    · rfl
    · rfl
    · rfl
  exact ⟨hbuild, hplain, hchecks, by decide +kernel, hresolve hbuild hplain (.inl rfl) hchecks⟩

end LayeredSettings
