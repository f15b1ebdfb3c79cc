import LayeredSettings.Proofs.Registry.Keys

/-!
# Which catalogs are built

A catalog is built exactly if every key is given once and every reference of a template is to
another setting of the catalog. What is built then finds each setting under its own keys and under
nothing else; and a catalog that is refused is refused for the first thing that is wrong with it, a
key that is given again before a bad reference.
-/

namespace LayeredSettings

variable {envPrefix : String} {home : Home} {definitions : List Definition} {d : Definition}

/-- A reference of a definition is a key of another definition of the catalog. -/
def Definition.NamesAnother (definitions : List Definition) (d : Definition)
    (reference : String) : Prop :=
  ∃ target ∈ definitions, reference ∈ target.keys ∧ target ≠ d

/-- Every name and deprecated name is given once, and all references are to other settings. -/
structure ConsistentCatalog (definitions : List Definition) : Prop where
  /-- No key is given twice. -/
  distinct : (definitions.flatMap Definition.keys).Nodup
  /-- A template refers to other settings of the catalog only. -/
  references : ∀ d ∈ definitions, ∀ reference ∈ d.references,
    d.NamesAnother definitions reference

/-- What a catalog is refused for: the first key that was given before, in the order of the
definitions and with a name before its deprecated names; or, if no key is given twice, the first
reference that is to no other setting. -/
inductive RefusedFor (definitions : List Definition) : RegistryFault → Prop
  | repeatedKey {before after : List String} {key : String}
      (hsplit : definitions.flatMap Definition.keys = before ++ key :: after)
      (hfirst : before.Nodup) (hagain : key ∈ before) : RefusedFor definitions (.repeatedKey key)
  | unknownReference {before after : List Definition} {d : Definition}
      {earlier later : List String} {reference : String}
      (hdistinct : (definitions.flatMap Definition.keys).Nodup)
      (hsplit : definitions = before ++ d :: after)
      (hbefore : ∀ e ∈ before, ∀ other ∈ e.references, e.NamesAnother definitions other)
      (hreferences : d.references = earlier ++ reference :: later)
      (hearlier : ∀ other ∈ earlier, d.NamesAnother definitions other)
      (hbad : ¬ d.NamesAnother definitions reference) :
      RefusedFor definitions (.unknownReference d.name reference)

/-- A registry finds the settings of a catalog, each under its own keys and under nothing else, in
whichever way it is asked. -/
structure Registry.Indexes (r : Registry) (definitions : List Definition) : Prop where
  /-- The settings are gone through in the order of the catalog. -/
  ordered : r.definitions = definitions
  /-- So are their names. -/
  names : r.names = definitions.map (·.name)
  /-- A key leads to the setting that it belongs to. -/
  find : ∀ key d, r.find? key = some d ↔ d ∈ definitions ∧ key ∈ d.keys
  /-- Looking a key up gives the setting that it belongs to. -/
  lookup : ∀ key d, r.lookup key = .ok d ↔ d ∈ definitions ∧ key ∈ d.keys
  /-- Looking up a key of no setting is an error that tells the key. -/
  refuses : ∀ key e, r.lookup key = .error e ↔
    e = .unknownSetting key ∧ ∀ d ∈ definitions, key ∉ d.keys
  /-- The keys of the registry are those of its settings. -/
  contains : ∀ key, r.contains key = true ↔ ∃ d ∈ definitions, key ∈ d.keys
  /-- The position of a key is that of the setting that it belongs to. -/
  position : ∀ key i, r.position? key = some i ↔
    ∃ d, definitions[i]? = some d ∧ key ∈ d.keys

/-- The first text that is met again is the one before which nothing was. -/
theorem firstRepeated?_eq_some_iff {seen l : List String} {key : String} :
    firstRepeated? seen l = some key ↔ ∃ before after, l = before ++ key :: after ∧
      before.Nodup ∧ (∀ other ∈ before, other ∉ seen) ∧ (key ∈ before ∨ key ∈ seen) := by
  induction l generalizing seen with
  | nil => simp [firstRepeated?]
  | cons head rest ih =>
    rw [firstRepeated?]
    by_cases hhead : head ∈ seen
    · rw [if_pos hhead]
      constructor
      · rintro ⟨⟩
        exact ⟨[], rest, rfl, List.nodup_nil, by simp, Or.inr hhead⟩
      · rintro ⟨before, after, hsplit, -, hseen, -⟩
        cases before with
        | nil => exact congrArg some (List.cons.inj hsplit).1
        | cons first tail =>
          obtain ⟨rfl, -⟩ := List.cons.inj hsplit
          exact absurd hhead (hseen head List.mem_cons_self)
    · rw [if_neg hhead, ih]
      constructor
      · rintro ⟨before, after, rfl, hnodup, hseen, hagain⟩
        refine ⟨head :: before, after, rfl, ?_, ?_, ?_⟩
        · exact List.nodup_cons.mpr ⟨fun hmem => hseen head hmem List.mem_cons_self, hnodup⟩
        · intro other hother hmem
          rcases List.mem_cons.mp hother with rfl | hother
          · exact hhead hmem
          · exact hseen other hother (List.mem_cons_of_mem _ hmem)
        · rw [List.mem_cons] at hagain ⊢
          tauto
      · rintro ⟨before, after, hsplit, hnodup, hseen, hagain⟩
        cases before with
        | nil =>
          -- Then the text would be the first one, which was not seen before.
          obtain ⟨rfl, -⟩ := List.cons.inj hsplit
          exact absurd (hagain.resolve_left List.not_mem_nil) hhead
        | cons first tail =>
          obtain ⟨rfl, hrest⟩ := List.cons.inj hsplit
          obtain ⟨hnew, hnodup⟩ := List.nodup_cons.mp hnodup
          refine ⟨tail, after, hrest, hnodup, fun other hother hmem => ?_, ?_⟩
          · rcases List.mem_cons.mp hmem with rfl | hmem
            · exact hnew hother
            · exact hseen other (List.mem_cons_of_mem _ hother) hmem
          · rw [List.mem_cons] at hagain ⊢
            tauto

namespace Registry

variable {r : Registry}

section Distinct

variable (hnodup : (r.definitions.flatMap Definition.keys).Nodup)
include hnodup

/-- Where no key is given twice, a reference is bad exactly if it is to no other setting. -/
private theorem bad_iff_not_namesAnother (hd : d ∈ r.definitions) {reference : String} :
    (!(r.find? reference).any (·.name ≠ d.name)) = true ↔
      ¬ d.NamesAnother r.definitions reference := by
  rw [Bool.not_eq_true', ← Bool.not_eq_true, not_iff_not]
  constructor
  · intro hknown
    cases hfind : r.find? reference with
    | none => simp [hfind] at hknown
    | some target =>
      obtain ⟨hmem, hkey⟩ := (find?_eq_some_iff_of_nodup hnodup).mp hfind
      refine ⟨target, hmem, hkey, ?_⟩
      rintro rfl
      simp [hfind] at hknown
  · rintro ⟨target, hmem, hkey, hne⟩
    rw [(find?_eq_some_iff_of_nodup hnodup).mpr ⟨hmem, hkey⟩]
    have hname : target.name ≠ d.name := by
      intro heq
      have hown : d.name ∈ target.keys := heq ▸ List.mem_cons_self
      exact hne (eq_of_shared_key_of_nodup hnodup hmem hd hown List.mem_cons_self)
    simpa using hname

/-- A definition passes exactly if all of its references are to other settings. -/
private theorem badReference?_eq_none_iff (hd : d ∈ r.definitions) :
    r.badReference? d = none ↔
      ∀ reference ∈ d.references, d.NamesAnother r.definitions reference := by
  unfold badReference?
  rw [Option.map_eq_none_iff, List.find?_eq_none]
  refine forall₂_congr fun reference _ => ?_
  rw [bad_iff_not_namesAnother hnodup hd, not_not]

/-- A definition that does not pass is told with its first reference that is to no other setting. -/
private theorem badReference?_eq_some_iff (hd : d ∈ r.definitions) {fault : RegistryFault} :
    r.badReference? d = some fault ↔ ∃ earlier reference later,
      d.references = earlier ++ reference :: later ∧
      (∀ other ∈ earlier, d.NamesAnother r.definitions other) ∧
      ¬ d.NamesAnother r.definitions reference ∧
      fault = .unknownReference d.name reference := by
  have hpasses (reference : String) : (!!(r.find? reference).any (·.name ≠ d.name)) = true ↔
      d.NamesAnother r.definitions reference := by
    rw [Bool.not_eq_true', ← Bool.not_eq_true, bad_iff_not_namesAnother hnodup hd, not_not]
  unfold badReference?
  rw [Option.map_eq_some_iff]
  constructor
  · rintro ⟨reference, hfind, rfl⟩
    obtain ⟨hbad, earlier, later, hsplit, hearlier⟩ := List.find?_eq_some_iff_append.mp hfind
    exact ⟨earlier, reference, later, hsplit,
      fun other hother => (hpasses other).mp (hearlier other hother),
      (bad_iff_not_namesAnother hnodup hd).mp hbad, rfl⟩
  · rintro ⟨earlier, reference, later, hsplit, hearlier, hbad, rfl⟩
    exact ⟨reference, List.find?_eq_some_iff_append.mpr
      ⟨(bad_iff_not_namesAnother hnodup hd).mpr hbad, earlier, later, hsplit,
        fun other hother => (hpasses other).mpr (hearlier other hother)⟩, rfl⟩

/-- A registry finds its settings under their own keys if no key is given twice. -/
private theorem indexes_of_nodup : r.Indexes r.definitions := by
  have hfind (key : String) (d : Definition) :
      r.find? key = some d ↔ d ∈ r.definitions ∧ key ∈ d.keys := find?_eq_some_iff_of_nodup hnodup
  refine ⟨rfl, rfl, hfind, fun key d => lookup_eq_ok_iff.trans (hfind key d), ?_, ?_, ?_⟩
  · intro key e
    have hnone : r.find? key = none ↔ ∀ d ∈ r.definitions, key ∉ d.keys := by
      simp [find?, List.find?_eq_none]
    rw [← hnone]
    unfold lookup
    cases r.find? key <;> simp [eq_comm]
  · intro key
    unfold contains
    rw [Option.isSome_iff_exists]
    exact exists_congr fun d => hfind key d
  · intro key i
    unfold position?
    rw [List.findIdx?_eq_some_iff_getElem]
    constructor
    · rintro ⟨hi, hkey, -⟩
      exact ⟨r.definitions[i], List.getElem?_eq_getElem hi, by simpa using hkey⟩
    · rintro ⟨d, hd, hkey⟩
      obtain ⟨hi, rfl⟩ := List.getElem?_eq_some_iff.mp hd
      refine ⟨hi, by simpa using hkey, fun j hj hother => ?_⟩
      -- An earlier definition has no key of a later one.
      have hapart := List.pairwise_iff_getElem.mp (List.nodup_flatMap.mp hnodup).2 j i
        (Nat.lt_trans hj hi) hi hj
      exact hapart (by simpa using hother) hkey

end Distinct

/-- A catalog has no fault exactly if it is consistent. -/
theorem fault?_eq_none_iff : r.fault? = none ↔ ConsistentCatalog r.definitions := by
  unfold fault?
  split
  · next key hrepeated =>
    refine iff_of_false (by simp) fun h => ?_
    rw [(firstRepeated?_eq_none_iff.mpr ⟨h.distinct, by simp⟩)] at hrepeated
    cases hrepeated
  · next hrepeated =>
    have hnodup := (firstRepeated?_eq_none_iff.mp hrepeated).1
    rw [List.findSome?_eq_none_iff]
    constructor
    · exact fun h => ⟨hnodup, fun d hd => (badReference?_eq_none_iff hnodup hd).mp (h d hd)⟩
    · exact fun h d hd => (badReference?_eq_none_iff hnodup hd).mpr (h.references d hd)

/-- The fault of a catalog is what the catalog is refused for. -/
theorem fault?_eq_some_iff {fault : RegistryFault} :
    r.fault? = some fault ↔ RefusedFor r.definitions fault := by
  unfold fault?
  split
  · next key hrepeated =>
    obtain ⟨before, after, hsplit, hfirst, -, hagain⟩ := firstRepeated?_eq_some_iff.mp hrepeated
    have hagain := hagain.resolve_right List.not_mem_nil
    constructor
    · rintro ⟨⟩
      exact .repeatedKey hsplit hfirst hagain
    · intro hrefused
      cases hrefused with
      | @repeatedKey before' after' key' hsplit' hfirst' hagain' =>
        have hrepeated' : firstRepeated? [] (r.definitions.flatMap Definition.keys) = some key' :=
          firstRepeated?_eq_some_iff.mpr
            ⟨before', after', hsplit', hfirst', by simp, Or.inl hagain'⟩
        rw [Option.some.inj (hrepeated.symm.trans hrepeated')]
      | unknownReference hdistinct =>
        rw [firstRepeated?_eq_none_iff.mpr ⟨hdistinct, by simp⟩] at hrepeated
        cases hrepeated
  · next hrepeated =>
    have hnodup := (firstRepeated?_eq_none_iff.mp hrepeated).1
    rw [List.findSome?_eq_some_iff]
    constructor
    · rintro ⟨before, d, after, hsplit, hfault, hbefore⟩
      have hmem : ∀ e ∈ before ++ d :: after, e ∈ r.definitions := fun e he => hsplit ▸ he
      obtain ⟨earlier, reference, later, hreferences, hearlier, hbad, rfl⟩ :=
        (badReference?_eq_some_iff hnodup (hmem d (by simp))).mp hfault
      refine .unknownReference hnodup hsplit (fun e he => ?_) hreferences hearlier hbad
      exact (badReference?_eq_none_iff hnodup (hmem e (by simp [he]))).mp (hbefore e he)
    · intro hrefused
      cases hrefused with
      | @repeatedKey before after key hsplit hfirst hagain =>
        rw [firstRepeated?_eq_some_iff.mpr
          ⟨before, after, hsplit, hfirst, by simp, Or.inl hagain⟩] at hrepeated
        cases hrepeated
      | @unknownReference before after d earlier later reference _ hsplit hbefore hreferences
          hearlier hbad =>
        have hmem : ∀ e ∈ before ++ d :: after, e ∈ r.definitions := fun e he => hsplit ▸ he
        refine ⟨before, d, after, hsplit, ?_, fun e he => ?_⟩
        · exact (badReference?_eq_some_iff hnodup (hmem d (by simp))).mpr
            ⟨earlier, reference, later, hreferences, hearlier, hbad, rfl⟩
        · exact (badReference?_eq_none_iff hnodup (hmem e (by simp [he]))).mpr (hbefore e he)

/-- A catalog is built exactly if it is consistent. The registry then has the settings of the
catalog in their order, each with the variable of its name, and finds them under their own keys
only. A catalog that is not consistent is refused for the first thing that is wrong with it. -/
theorem built_iff_consistent (envPrefix : String) (home : Home) (definitions : List Definition) :
    ((∃ r, build envPrefix home definitions = .ok r) ↔ ConsistentCatalog definitions) ∧
    (∀ r, build envPrefix home definitions = .ok r → r.Indexes definitions ∧
      ∀ d ∈ definitions, r.boundVariable d = variableName envPrefix d.name) ∧
    ∀ e, build envPrefix home definitions = .error e ↔
      ∃ fault, RefusedFor definitions fault ∧ e = .invalidRegistry fault.message := by
  let r : Registry := ⟨envPrefix, home, definitions⟩
  have hbuild : build envPrefix home definitions =
      r.fault?.elim (.ok r) fun fault => .error fault.toError := rfl
  have hconsistent : r.fault? = none ↔ ConsistentCatalog definitions := fault?_eq_none_iff
  have hrefused (fault : RegistryFault) : r.fault? = some fault ↔ RefusedFor definitions fault :=
    fault?_eq_some_iff
  rw [hbuild]
  cases hfault : r.fault? with
  | none =>
    have hcatalog := hconsistent.mp hfault
    refine ⟨iff_of_true ⟨r, rfl⟩ hcatalog, ?_, fun e => iff_of_false (by simp) ?_⟩
    · rintro _ ⟨⟩
      exact ⟨indexes_of_nodup hcatalog.distinct, fun d _ => rfl⟩
    · rintro ⟨fault, hfor, -⟩
      simp [(hrefused fault).mpr hfor] at hfault
  | some fault =>
    have hnot : ¬ ConsistentCatalog definitions := fun h => by simp [hconsistent.mpr h] at hfault
    refine ⟨iff_of_false (by simp) hnot, by simp, fun e => ?_⟩
    constructor
    · rintro ⟨⟩
      exact ⟨fault, (hrefused fault).mp hfault, rfl⟩
    · rintro ⟨other, hfor, rfl⟩
      rw [Option.some.inj (hfault.symm.trans ((hrefused other).mpr hfor))]
      rfl

/-- A link to a host, which the template names by an old name. -/
def linkCatalog : List Definition :=
  [{ name := "LINK", kind := .string, defaultValue := .template "http://${SERVER}/${LINK_PATH}" },
   { name := "HOST", kind := .string, aliases := ["SERVER"] },
   { name := "LINK_PATH", kind := .string }]

/-- The link is built, and the old name of the host leads to the second setting. With a setting more
that has the old name of the host as its name, that key is the one that was given before; without
the path, the reference to it is the bad one. -/
theorem built_iff_consistent_of_link :
    (∃ r, build "APP_" none linkCatalog = .ok r ∧ ConsistentCatalog linkCatalog ∧
      r.Indexes linkCatalog ∧ r.position? "SERVER" = some 1 ∧
      ∀ d ∈ linkCatalog, r.boundVariable d = variableName "APP_" d.name) ∧
    (∃ fault, RefusedFor (linkCatalog ++ [{ name := "SERVER", kind := .string }]) fault ∧
      fault.message = "'SERVER' is defined more than once") ∧
    ∃ fault, RefusedFor (linkCatalog.take 2) fault ∧ fault.message =
      "template default of 'LINK' references unknown setting 'LINK_PATH'" := by
  have hfault : (Registry.mk "APP_" none linkCatalog).fault? = none := by decide +kernel
  have hok : build "APP_" none linkCatalog = .ok ⟨"APP_", none, linkCatalog⟩ := by
    simp only [build, hfault, Option.elim_none]
  obtain ⟨hiff, hbuilt, -⟩ := built_iff_consistent "APP_" none linkCatalog
  obtain ⟨hindexes, hbound⟩ := hbuilt _ hok
  refine ⟨⟨_, hok, hiff.mp ⟨_, hok⟩, hindexes, by decide +kernel, hbound⟩,
    ⟨.repeatedKey "SERVER", ?_, by decide +kernel⟩,
    ⟨.unknownReference "LINK" "LINK_PATH", ?_, by decide +kernel⟩⟩
  · exact (fault?_eq_some_iff (r := ⟨"", none, _⟩)).mp (by decide +kernel)
  · exact (fault?_eq_some_iff (r := ⟨"", none, _⟩)).mp (by decide +kernel)

end Registry

end LayeredSettings
