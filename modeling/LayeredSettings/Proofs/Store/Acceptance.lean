import LayeredSettings.Proofs.Profile.Name
import LayeredSettings.Proofs.Store.Document
import LayeredSettings.Proofs.Toml.DistinctReading

/-!
# Which documents hold a collection

A document holds a collection exactly if each member of its table of profiles is a table of scalars
under a name and the active name, if there is one, is among them. The collection then has these
profiles with these values and no others. Else the first member that is wrong is told, and a name
that is missing only if none is.
-/

namespace LayeredSettings

namespace Toml

/-- A value that can be stored raw: a text, a number or a truth value. -/
def Value.IsScalar : Value → Prop
  | .string _ | .integer _ | .float _ | .boolean _ => True
  | .datetime | .array _ | .table _ => False

/-- A member of the table of profiles from which a profile can be read. -/
structure HoldsProfile (name : String) (value : Value) : Prop where
  /-- The key can name a profile. -/
  name : NamesProfile name
  /-- The value is a table of scalars. -/
  scalars : ∃ entries, value = .table entries ∧ ∀ entry ∈ entries, entry.2.IsScalar

/-- An active name and a table of profiles from which a collection can be read. -/
structure HoldsCollection (active : Option String) (members : Table) : Prop where
  /-- Each member holds a profile. -/
  profiles : ∀ member ∈ members, HoldsProfile member.1 member.2
  /-- The active name is that of a member. -/
  active_mem : ∀ name, active = some name → name ∈ members.map (·.1)

end Toml

/-- A profile has the name of a member of the table of profiles, and the values of the member. -/
structure Profile.HeldBy (p : Profile) (name : String) (value : Toml.Value) : Prop where
  /-- The name is the key of the member. -/
  name_eq : p.name.text = name
  /-- A value is stored exactly if it stands in the table. -/
  values : ∃ entries, value = .table entries ∧
    ∀ key raw, p.settings.get? key = some raw ↔ (key, raw.toToml) ∈ entries

/-- The first thing that keeps a member of the table of profiles from holding a profile. -/
inductive StoreFault.OfProfile (name : String) (value : Toml.Value) : StoreFault → Prop
  /-- The value is no table. -/
  | notTable (hvalue : ∀ entries, value ≠ .table entries) : OfProfile name value (.notTable name)
  /-- The key cannot name a profile. -/
  | badName {entries : Toml.Table} {fault : NameFault} (hvalue : value = .table entries)
      (hname : fault.Spoils name) : OfProfile name value (.badName fault)
  /-- A value in the table is no scalar; it is the first such value. -/
  | notScalar {before after : Toml.Table} {key : String} {inner : Toml.Value}
      (hname : NamesProfile name) (hvalue : value = .table (before ++ (key, inner) :: after))
      (hbefore : ∀ entry ∈ before, entry.2.IsScalar) (hinner : ¬ inner.IsScalar) :
      OfProfile name value (.notScalar key name)

/-- The first thing that keeps an active name and a table of profiles from holding a collection. -/
inductive StoreFault.OfDocument (active : Option String) (members : Toml.Table) :
    StoreFault → Prop
  /-- A member holds no profile; it is the first such member. -/
  | profile {before after : Toml.Table} {name : String} {value : Toml.Value} {fault : StoreFault}
      (hsplit : members = before ++ (name, value) :: after)
      (hbefore : ∀ member ∈ before, Toml.HoldsProfile member.1 member.2)
      (hfault : fault.OfProfile name value) : OfDocument active members fault
  /-- All members hold profiles, but none is that of the active name. -/
  | activeMissing {name : String}
      (hprofiles : ∀ member ∈ members, Toml.HoldsProfile member.1 member.2)
      (hactive : active = some name) (hmissing : name ∉ members.map (·.1)) :
      OfDocument active members (.activeMissing name)

/-- A value is read raw exactly if it is that raw value. -/
theorem Raw.ofToml?_eq_some_iff {value : Toml.Value} {raw : Raw} :
    Raw.ofToml? value = some raw ↔ value = raw.toToml := by
  constructor
  · intro h
    cases value <;> cases h <;> rfl
  · rintro rfl
    exact Raw.ofToml?_toToml raw

/-- Raw values with one TOML value are one. -/
theorem Raw.toToml_inj {raw other : Raw} : raw.toToml = other.toToml ↔ raw = other := by
  rw [← Raw.ofToml?_eq_some_iff, Raw.ofToml?_toToml, Option.some_inj]

/-- The TOML value of a raw value is a scalar. -/
theorem Raw.isScalar_toToml (raw : Raw) : raw.toToml.IsScalar := by
  cases raw <;> exact trivial

/-- A value is not read raw exactly if it is no scalar. -/
theorem Raw.ofToml?_eq_none_iff {value : Toml.Value} :
    Raw.ofToml? value = none ↔ ¬ value.IsScalar := by
  cases value <;> simp [Raw.ofToml?, Toml.Value.IsScalar]

namespace Profile

variable {p q : Profile} {name : String} {value : Toml.Value} {entries : Toml.Table}
  {fault : StoreFault}

/-- A scalar is stored, and the rest of the table after it. -/
private theorem storeTable_cons_of_some {raw : Raw} (hraw : Raw.ofToml? value = some raw)
    (key : String) :
    p.storeTable ((key, value) :: entries) = (p.store key raw).storeTable entries := by
  unfold storeTable
  rw [List.foldlM_cons]
  dsimp only
  rw [hraw]
  rfl

/-- What is no scalar is told. -/
private theorem storeTable_cons_of_none (hnone : Raw.ofToml? value = none) (key : String) :
    p.storeTable ((key, value) :: entries) = .error (.notScalar key p.name.text) := by
  unfold storeTable
  rw [List.foldlM_cons]
  dsimp only
  rw [hnone]
  rfl

/-- A table cannot be stored exactly because of its first value that is no scalar. -/
theorem storeTable_eq_error_iff :
    p.storeTable entries = .error fault ↔ ∃ before key inner after,
      entries = before ++ (key, inner) :: after ∧ (∀ entry ∈ before, entry.2.IsScalar) ∧
      ¬ inner.IsScalar ∧ fault = .notScalar key p.name.text := by
  induction entries generalizing p with
  | nil => simp [storeTable, pure, Except.pure]
  | cons entry rest ih =>
    obtain ⟨key, value⟩ := entry
    cases hraw : Raw.ofToml? value with
    | none =>
      have hvalue := Raw.ofToml?_eq_none_iff.mp hraw
      rw [storeTable_cons_of_none hraw]
      constructor
      · rintro ⟨⟩
        exact ⟨[], key, value, rest, rfl, by simp, hvalue, rfl⟩
      · rintro ⟨before, last, inner, after, hsplit, hbefore, hinner, rfl⟩
        cases before with
        | nil =>
          cases hsplit
          rfl
        | cons first earlier =>
          obtain ⟨rfl, -⟩ := List.cons.inj hsplit
          exact absurd (hbefore _ List.mem_cons_self) hvalue
    | some raw =>
      have hvalue : value.IsScalar := Raw.ofToml?_eq_some_iff.mp hraw ▸ raw.isScalar_toToml
      rw [storeTable_cons_of_some hraw, ih]
      constructor
      · rintro ⟨before, last, inner, after, rfl, hbefore, hinner, rfl⟩
        exact ⟨(key, value) :: before, last, inner, after, rfl,
          List.forall_mem_cons.mpr ⟨hvalue, hbefore⟩, hinner, rfl⟩
      · rintro ⟨before, last, inner, after, hsplit, hbefore, hinner, rfl⟩
        cases before with
        | nil =>
          obtain ⟨hfirst, -⟩ := List.cons.inj hsplit
          cases hfirst
          exact absurd hvalue hinner
        | cons first earlier =>
          obtain ⟨rfl, hrest⟩ := List.cons.inj hsplit
          exact ⟨earlier, last, inner, after, hrest, (List.forall_mem_cons.mp hbefore).2, hinner,
            rfl⟩

/-- A table without a repeated key that is stored has scalars only; each of them is stored under its
key, and what is stored under other keys stays. -/
theorem storeTable_eq_ok (hkeys : (entries.map (·.1)).Nodup) (hok : p.storeTable entries = .ok q) :
    q.name = p.name ∧ (∀ entry ∈ entries, entry.2.IsScalar) ∧
      ∀ key raw, q.settings.get? key = some raw ↔
        (key, raw.toToml) ∈ entries ∨
          key ∉ entries.map (·.1) ∧ p.settings.get? key = some raw := by
  induction entries generalizing p with
  | nil =>
    cases hok
    simp
  | cons entry rest ih =>
    obtain ⟨key, value⟩ := entry
    cases hraw : Raw.ofToml? value with
    | none =>
      rw [storeTable_cons_of_none hraw] at hok
      cases hok
    | some raw =>
      rw [storeTable_cons_of_some hraw] at hok
      obtain rfl := Raw.ofToml?_eq_some_iff.mp hraw
      obtain ⟨hnew, hrest⟩ := List.nodup_cons.mp hkeys
      obtain ⟨hname, hscalars, hget⟩ := ih hrest hok
      refine ⟨hname, List.forall_mem_cons.mpr ⟨raw.isScalar_toToml, hscalars⟩, fun k r => ?_⟩
      rw [hget]
      have hstore : (p.store key raw).settings.get? k =
          if k = key then some raw else p.settings.get? k := NameMap.get?_insert _ _ _ _
      rw [hstore]
      by_cases hk : k = key
      · subst hk
        have hnot : (k, r.toToml) ∉ rest := fun hmem => hnew (List.mem_map.mpr ⟨_, hmem, rfl⟩)
        simp only [hnot, hnew, List.map_cons, List.mem_cons, Prod.mk.injEq, Raw.toToml_inj,
          not_false_eq_true, true_and, not_true_eq_false, false_and, false_or, or_false,
          if_true, Option.some_inj]
        exact eq_comm
      · simp only [hk, List.map_cons, List.mem_cons, Prod.mk.injEq, false_and, false_or, if_false]

/-- A member is refused exactly for the first thing that keeps it from holding a profile. -/
theorem ofToml_eq_error_iff : ofToml name value = .error fault ↔ fault.OfProfile name value := by
  constructor
  · intro herr
    unfold ofToml at herr
    split at herr
    · next entries =>
      cases hname : ProfileName.ofText name with
      | error nameFault =>
        rw [hname] at herr
        cases herr
        exact .badName rfl (ProfileName.ofText_eq_error_iff.mp hname)
      | ok valid =>
        rw [hname] at herr
        obtain ⟨before, key, inner, after, rfl, hbefore, hinner, rfl⟩ :=
          storeTable_eq_error_iff.mp herr
        have htext : (named valid).name.text = name := ProfileName.text_of_ofText hname
        rw [htext]
        exact .notScalar (ProfileName.exists_ofText_iff.mp ⟨valid, hname⟩) rfl hbefore hinner
    · next hvalue =>
      cases herr
      exact .notTable hvalue
  · intro hfault
    cases hfault with
    | notTable hvalue =>
      unfold ofToml
      split
      · next entries => exact absurd rfl (hvalue entries)
      · rfl
    | badName hvalue hname =>
      subst hvalue
      unfold ofToml
      rw [ProfileName.ofText_eq_error_iff.mpr hname]
    | notScalar hname hvalue hbefore hinner =>
      subst hvalue
      obtain ⟨valid, hvalid⟩ := ProfileName.exists_ofText_iff.mpr hname
      have htext : (named valid).name.text = name := ProfileName.text_of_ofText hvalid
      unfold ofToml
      rw [hvalid]
      exact storeTable_eq_error_iff.mpr ⟨_, _, _, _, rfl, hbefore, hinner, by rw [htext]⟩

/-- A member from which a profile is read holds a profile, and the profile is held by it. -/
theorem heldBy_of_ofToml (hvalue : value.Distinct) (hok : ofToml name value = .ok p) :
    Toml.HoldsProfile name value ∧ p.HeldBy name value := by
  unfold ofToml at hok
  split at hok
  · next entries =>
    cases hname : ProfileName.ofText name with
    | error nameFault =>
      rw [hname] at hok
      cases hok
    | ok valid =>
      rw [hname] at hok
      obtain ⟨hsame, hscalars, hget⟩ :=
        storeTable_eq_ok (Toml.Value.distinct_table_iff.mp hvalue).keys hok
      refine ⟨⟨ProfileName.exists_ofText_iff.mp ⟨valid, hname⟩, entries, rfl, hscalars⟩, ?_,
        entries, rfl, fun key raw => ?_⟩
      · rw [hsame]
        exact ProfileName.text_of_ofText hname
      · have hempty : (named valid).settings.get? key = none := NameMap.get?_empty key
        simp [hget, hempty]
  · cases hok

/-- A profile is read from each member that holds one. -/
theorem exists_ofToml (h : Toml.HoldsProfile name value) : ∃ p, ofToml name value = .ok p := by
  cases hread : ofToml name value with
  | ok p => exact ⟨p, rfl⟩
  | error fault =>
    obtain ⟨hname, entries, rfl, hscalars⟩ := h
    cases ofToml_eq_error_iff.mp hread with
    | notTable hvalue => exact absurd rfl (hvalue entries)
    | badName _ hspoils =>
      rw [← ProfileName.ofText_eq_error_iff] at hspoils
      obtain ⟨valid, hvalid⟩ := ProfileName.exists_ofText_iff.mpr hname
      rw [hvalid] at hspoils
      cases hspoils
    | notScalar _ hvalue _ hinner =>
      cases hvalue
      exact absurd (hscalars _ (List.mem_append_right _ List.mem_cons_self)) hinner

end Profile

namespace Collection

variable {s : String} {t members : Toml.Table} {active : Option String} {fault : StoreFault}
  {profiles : List Profile}

/-- What is read from a document is made of the profiles of its members. -/
private theorem parse_eq (hread : Toml.read? s = some t)
    (hgiven : Toml.activeAndProfiles t = .ok (active, members)) :
    parse s = (members.mapM fun (name, value) => Profile.ofToml name value) >>= fun profiles =>
      ofStored profiles active := by
  unfold parse
  rw [hread, Option.elim_some, ofTable, hgiven]
  rfl

/-- A text of which anything else is told than that it cannot be read gives an active name and a
table of profiles. -/
theorem exists_given_of_parse (h : ∀ unread, parse s ≠ .error (.unread unread)) :
    ∃ t active members, Toml.read? s = some t ∧
      Toml.activeAndProfiles t = .ok (active, members) := by
  unfold parse at h
  cases hread : Toml.read? s with
  | none => exact absurd (by rw [hread]; rfl) (h .malformed)
  | some t =>
    rw [hread, Option.elim_some, ofTable] at h
    cases hgiven : Toml.activeAndProfiles t with
    | error unread => exact absurd (by rw [hgiven]; rfl) (h unread)
    | ok given => exact ⟨t, given.1, given.2, rfl, hgiven⟩

/-- Profiles of distinct names make a collection if the pointer is at one of them or nowhere. -/
theorem ofStored_eq_ok (hnodup : (profiles.map (·.name.text)).Nodup)
    (hactive : ∀ name, active = some name → name ∈ profiles.map (·.name.text)) :
    ∃ pointer, ofStored profiles active = .ok ⟨profiles, pointer⟩ ∧
      pointer.map ProfileName.text = active := by
  unfold ofStored
  rw [ofProfiles_of_nodup active hnodup]
  cases active with
  | none => exact ⟨none, rfl, rfl⟩
  | some name =>
    have hname : name ∈ (Collection.mk profiles none).names := hactive name rfl
    obtain ⟨valid, hvalid, hset⟩ := exists_setActive hname
    exact ⟨some valid, by rw [hset]; rfl, by rw [Option.map_some, hvalid]⟩

/-- A pointer at none of the profiles is told. -/
theorem ofStored_of_missing (hnodup : (profiles.map (·.name.text)).Nodup) {name : String}
    (hmissing : name ∉ profiles.map (·.name.text)) :
    ofStored profiles (some name) = .error (.activeMissing name) := by
  unfold ofStored
  rw [ofProfiles_of_nodup _ hnodup]
  have hnone : name ∉ (Collection.mk profiles none).names := hmissing
  have hset : setActive ⟨profiles, none⟩ (some name) = .error (.profileNotFound name) :=
    bind_of_error (require_eq_error_iff.mpr ⟨hnone, rfl⟩)
  rw [hset]
  rfl

section Members

variable (hmembers : members.Distinct)
include hmembers

/-- Profiles that are read from the members of a table are held by them, in order. -/
theorem heldBy_of_mapM
    (hok : (members.mapM fun (name, value) => Profile.ofToml name value) = .ok profiles) :
    (∀ member ∈ members, Toml.HoldsProfile member.1 member.2) ∧
      List.Forall₂ (fun p member => p.HeldBy member.1 member.2) profiles members ∧
      profiles.map (·.name.text) = members.map (·.1) := by
  obtain ⟨-, hvalues⟩ := hmembers
  have hall := mapM_eq_ok_iff.mp hok
  clear hok
  induction hall with
  | nil => simp
  | @cons member p rest tail hfirst _ ih =>
    obtain ⟨hvalue, hrest⟩ := List.forall_mem_cons.mp hvalues
    obtain ⟨hholds, hheld⟩ := Profile.heldBy_of_ofToml hvalue hfirst
    obtain ⟨hothers, hheldAll, hnames⟩ := ih hrest
    exact ⟨List.forall_mem_cons.mpr ⟨hholds, hothers⟩, .cons hheld hheldAll,
      by rw [List.map_cons, List.map_cons, hnames, hheld.name_eq]⟩

/-- Members that all hold profiles are all read, and the profiles have distinct names. -/
theorem exists_mapM_of_holds
    (hholds : ∀ member ∈ members, Toml.HoldsProfile member.1 member.2) :
    ∃ profiles, (members.mapM fun (name, value) => Profile.ofToml name value) = .ok profiles ∧
      (profiles.map (·.name.text)).Nodup ∧ profiles.map (·.name.text) = members.map (·.1) := by
  cases hread : members.mapM fun (name, value) => Profile.ofToml name value with
  | ok profiles =>
    obtain ⟨-, -, hnames⟩ := heldBy_of_mapM hmembers hread
    exact ⟨profiles, rfl, hnames ▸ hmembers.keys, hnames⟩
  | error fault =>
    obtain ⟨before, member, after, rfl, -, herr⟩ := mapM_eq_error_iff.mp hread
    obtain ⟨p, hp⟩ := Profile.exists_ofToml (hholds member (by simp))
    cases hp.symm.trans herr

end Members

section Documents

variable (hread : Toml.read? s = some t)
  (hgiven : Toml.activeAndProfiles t = .ok (active, members))
include hread hgiven

/-- A document from which a collection is read holds it, with its profiles in order. -/
theorem holdsCollection_of_parse {c : Collection} (hok : parse s = .ok c) :
    Toml.HoldsCollection active members ∧ c.activeName? = active ∧
      List.Forall₂ (fun p member => p.HeldBy member.1 member.2) c.profiles members := by
  have hmembers := (Toml.distinct_of_read hread).profiles hgiven
  rw [parse_eq hread hgiven] at hok
  obtain ⟨profiles, hprofiles, hok⟩ := bind_eq_ok hok
  obtain ⟨hholds, hheld, hnames⟩ := heldBy_of_mapM hmembers hprofiles
  have hnodup : (profiles.map (·.name.text)).Nodup := hnames ▸ hmembers.keys
  have hactive : ∀ name, active = some name → name ∈ profiles.map (·.name.text) := by
    rintro name rfl
    by_contra hmissing
    rw [ofStored_of_missing hnodup hmissing] at hok
    cases hok
  obtain ⟨pointer, hstored, hpointer⟩ := ofStored_eq_ok hnodup hactive
  cases hstored.symm.trans hok
  exact ⟨⟨hholds, hnames ▸ hactive⟩, hpointer, hheld⟩

/-- A collection is read from each document that holds one. -/
theorem exists_parse (h : Toml.HoldsCollection active members) : ∃ c, parse s = .ok c := by
  have hmembers := (Toml.distinct_of_read hread).profiles hgiven
  obtain ⟨profiles, hprofiles, hnodup, hnames⟩ := exists_mapM_of_holds hmembers h.profiles
  obtain ⟨pointer, hstored, -⟩ := ofStored_eq_ok hnodup (hnames ▸ h.active_mem)
  refine ⟨⟨profiles, pointer⟩, ?_⟩
  rw [parse_eq hread hgiven, hprofiles]
  exact hstored

/-- A document is refused exactly for the first thing that keeps it from holding a collection. -/
theorem parse_eq_error_iff : parse s = .error fault ↔ fault.OfDocument active members := by
  have hmembers := (Toml.distinct_of_read hread).profiles hgiven
  rw [parse_eq hread hgiven]
  constructor
  · intro herr
    rcases bind_eq_error herr with hprofiles | ⟨profiles, hprofiles, hstored⟩
    · obtain ⟨before, ⟨name, value⟩, after, hsplit, hbefore, hfault⟩ :=
        mapM_eq_error_iff.mp hprofiles
      refine .profile hsplit (fun member hmember => ?_) (Profile.ofToml_eq_error_iff.mp hfault)
      obtain ⟨p, hp⟩ := hbefore member hmember
      have hvalue := hmembers.values member (hsplit ▸ List.mem_append_left _ hmember)
      exact (Profile.heldBy_of_ofToml hvalue hp).1
    · obtain ⟨hholds, -, hnames⟩ := heldBy_of_mapM hmembers hprofiles
      have hnodup : (profiles.map (·.name.text)).Nodup := hnames ▸ hmembers.keys
      by_cases hactive : ∀ name, active = some name → name ∈ profiles.map (·.name.text)
      · obtain ⟨pointer, hmade, -⟩ := ofStored_eq_ok hnodup hactive
        cases hmade.symm.trans hstored
      · push Not at hactive
        obtain ⟨name, rfl, hmissing⟩ := hactive
        rw [ofStored_of_missing hnodup hmissing] at hstored
        cases hstored
        exact .activeMissing hholds rfl (hnames ▸ hmissing)
  · intro hfault
    cases hfault with
    | @profile before after name value fault hsplit hbefore hfault =>
      have herr : (members.mapM fun (name, value) => Profile.ofToml name value) = .error fault :=
        mapM_eq_error_iff.mpr ⟨before, (name, value), after, hsplit,
          fun member hmember => Profile.exists_ofToml (hbefore member hmember),
          Profile.ofToml_eq_error_iff.mpr hfault⟩
      rw [herr]
      rfl
    | activeMissing hholds hactive hmissing =>
      obtain ⟨profiles, hprofiles, hnodup, hnames⟩ := exists_mapM_of_holds hmembers hholds
      rw [hprofiles, hactive]
      exact ofStored_of_missing hnodup (hnames ▸ hmissing)

end Documents

/-- A collection is read from a document exactly if the document holds one. It then has the profiles
of the document in order, with exactly the values there, and the pointer of the document; else the
first thing that is wrong is told, which is never that a name stands twice. -/
theorem parse_accepts_exactly (hread : Toml.read? s = some t)
    (hgiven : Toml.activeAndProfiles t = .ok (active, members)) :
    ((∃ c, parse s = .ok c) ↔ Toml.HoldsCollection active members) ∧
    (∀ c, parse s = .ok c → c.activeName? = active ∧
      List.Forall₂ (fun p member => p.HeldBy member.1 member.2) c.profiles members) ∧
    (∀ fault, parse s = .error fault ↔ fault.OfDocument active members) ∧
    ∀ name, parse s ≠ .error (.duplicate name) := by
  refine ⟨⟨?_, exists_parse hread hgiven⟩, ?_, fun fault => parse_eq_error_iff hread hgiven, ?_⟩
  · rintro ⟨c, hok⟩
    exact (holdsCollection_of_parse hread hgiven hok).1
  · intro c hok
    exact (holdsCollection_of_parse hread hgiven hok).2
  · intro name herr
    cases (parse_eq_error_iff hread hgiven).mp herr with
    | profile _ _ hfault => cases hfault

/-- A text with a profile of two values and the pointer at it. -/
def pointedText : String := "active = \"dev\"\n[profiles.dev]\nPORT = 80\nHOST = \"h\"\n"

/-- A text with a list in the second profile, a name that is none after it, and the pointer at no
profile. -/
def spoiledText : String :=
  "active = \"ghost\"\n[profiles.dev]\nPORT = 80\n[profiles.local]\nTAGS = [1]\n[profiles.\" x\"]\n"

/-- The profile of two values is read. Of the other text the list is told, and neither the name
after it nor the pointer. -/
theorem parse_accepts_exactly_of_pointed_and_spoiled :
    (∃ t active members, Toml.read? pointedText = some t ∧
      Toml.activeAndProfiles t = .ok (active, members) ∧ Toml.HoldsCollection active members ∧
      parse pointedText =
        .ok ⟨[⟨⟨"dev", by decide⟩, .ofList [("HOST", .text "h"), ("PORT", .integer 80)]⟩],
          some ⟨"dev", by decide⟩⟩) ∧
    ∃ t active members, Toml.read? spoiledText = some t ∧
      Toml.activeAndProfiles t = .ok (active, members) ∧
      (StoreFault.notScalar "TAGS" "local").OfDocument active members ∧
      parse spoiledText = .error (.notScalar "TAGS" "local") := by
  constructor
  · have hok : parse pointedText =
        .ok ⟨[⟨⟨"dev", by decide⟩, .ofList [("HOST", .text "h"), ("PORT", .integer 80)]⟩],
          some ⟨"dev", by decide⟩⟩ := by
      decide +kernel
    obtain ⟨t, active, members, hread, hgiven⟩ := exists_given_of_parse fun _ => by
      rw [hok]
      rintro ⟨⟩
    exact ⟨t, active, members, hread, hgiven, (parse_accepts_exactly hread hgiven).1.mp ⟨_, hok⟩,
      hok⟩
  · have herr : parse spoiledText = .error (.notScalar "TAGS" "local") := by decide +kernel
    obtain ⟨t, active, members, hread, hgiven⟩ := exists_given_of_parse fun _ => by
      rw [herr]
      rintro ⟨⟩
    exact ⟨t, active, members, hread, hgiven,
      ((parse_accepts_exactly hread hgiven).2.2.1 _).mp herr, herr⟩

end Collection

end LayeredSettings
