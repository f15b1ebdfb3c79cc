import LayeredSettings.Profile.Collection
import LayeredSettings.Proofs.Error
import Mathlib.Data.List.Nodup

/-!
# Operations on a collection

A collection is well-formed if no two of its profiles have one name and the pointer is at one of
them or nowhere. Each operation changes the collection in one of a few ways: a profile comes last,
one goes, one changes in its place, or the pointer moves. All of these keep it well-formed.
-/

namespace LayeredSettings

/-- The text of a profile name is read as that name. -/
theorem ProfileName.ofText_text (name : ProfileName) : ofText name.text = .ok name := by
  unfold ofText
  split
  · rfl
  · next fault hfault =>
    rw [name.valid] at hfault
    cases hfault

/-- A text that is read as a profile name is the text of that name. -/
theorem ProfileName.text_of_ofText {text : String} {name : ProfileName}
    (hok : ofText text = .ok name) : name.text = text := by
  unfold ofText at hok
  split at hok
  · cases hok
    rfl
  · cases hok

/-- Profile names with one text are one. -/
theorem ProfileName.eq_of_text_eq {name other : ProfileName} (h : name.text = other.text) :
    name = other := by
  cases name
  cases other
  cases h
  rfl

/-- A text that is taken as a profile name is the text of that name. -/
theorem Profile.text_of_nameOf {text : String} {name : ProfileName}
    (hok : nameOf text = .ok name) : name.text = text := by
  unfold nameOf at hok
  cases hread : ProfileName.ofText text with
  | error fault => simp [hread, Except.mapError] at hok
  | ok found =>
    have hfound : found = name := by simpa [hread, Except.mapError] using hok
    rw [← hfound]
    exact ProfileName.text_of_ofText hread

namespace Collection

variable {c : Collection} {p : Profile} {name : String}

/-- No two profiles have one name, and the pointer is at one of them or nowhere. -/
structure WellFormed (c : Collection) : Prop where
  /-- Names are pairwise distinct. -/
  nodup_names : c.names.Nodup
  /-- The pointer is at a profile that is there. -/
  active_mem : ∀ name, c.activeName? = some name → name ∈ c.names

/-- A name is one of the names if a profile has it. -/
theorem mem_names_iff : name ∈ c.names ↔ ∃ p ∈ c.profiles, p.name.text = name := by
  unfold names
  exact List.mem_map

/-- A profile is found under a name that is one of the names. -/
theorem contains_iff : c.contains name = true ↔ name ∈ c.names := by
  rw [mem_names_iff]
  simp [contains, get?]

/-- A profile that is found is there, under the name. -/
theorem mem_of_get? (hget : c.get? name = some p) : p ∈ c.profiles ∧ p.name.text = name := by
  constructor
  · exact List.mem_of_find?_eq_some hget
  · simpa using List.find?_some hget

/-- The profile required is the one found. -/
theorem require_eq_ok_iff : c.require name = .ok p ↔ c.get? name = some p := by
  unfold require
  cases c.get? name <;> simp

/-- A profile that is required fails to be there exactly if no profile has the name. -/
theorem require_eq_error_iff {e : SettingsError} :
    c.require name = .error e ↔ name ∉ c.names ∧ e = .profileNotFound name := by
  rw [← contains_iff]
  unfold require contains
  cases c.get? name <;> simp [eq_comm]

/-- A required profile stands between profiles of other names, so it is the only one of its name. -/
theorem WellFormed.exists_split (h : c.WellFormed) (hget : c.get? name = some p) :
    ∃ before after, c.profiles = before ++ p :: after ∧ p.name.text = name ∧
      (∀ q ∈ before, q.name.text ≠ name) ∧ ∀ q ∈ after, q.name.text ≠ name := by
  obtain ⟨hname, before, after, hsplit, hbefore⟩ := List.find?_eq_some_iff_append.mp hget
  have hname : p.name.text = name := by simpa using hname
  have hnodup : (before.map (·.name.text) ++ name :: after.map (·.name.text)).Nodup := by
    have hnames := h.nodup_names
    unfold names at hnames
    rwa [hsplit, List.map_append, List.map_cons, hname] at hnames
  refine ⟨before, after, hsplit, hname, ?_, ?_⟩
  · intro q hq
    simpa using hbefore q hq
  · intro q hq heq
    have hnot := (List.nodup_cons.mp (List.nodup_append.mp hnodup).2.1).1
    exact hnot (List.mem_map.mpr ⟨q, hq, heq⟩)

section Split

variable {before after : List Profile} (hname : p.name.text = name)
  (hbefore : ∀ q ∈ before, q.name.text ≠ name) (hafter : ∀ q ∈ after, q.name.text ≠ name)
include hname hbefore hafter

/-- What is done to the profiles of one name is done to the one between the others. -/
theorem map_of_split (f : Profile → Profile) :
    (before ++ p :: after).map (fun q => if q.name.text = name then f q else q) =
      before ++ f p :: after := by
  have hkept (l : List Profile) (hl : ∀ q ∈ l, q.name.text ≠ name) :
      l.map (fun q => if q.name.text = name then f q else q) = l := by
    refine (List.map_congr_left fun q hq => ?_).trans (List.map_id l)
    exact if_neg (hl q hq)
  rw [List.map_append, List.map_cons, hkept before hbefore, hkept after hafter, if_pos hname]

/-- Without the profiles of one name the others are left, in their order. -/
theorem filter_of_split :
    (before ++ p :: after).filter (·.name.text ≠ name) = before ++ after := by
  have hkept (l : List Profile) (hl : ∀ q ∈ l, q.name.text ≠ name) :
      l.filter (·.name.text ≠ name) = l :=
    List.filter_eq_self.mpr fun q hq => by simpa using hl q hq
  rw [List.filter_append, List.filter_cons_of_neg (by simpa using hname), hkept before hbefore,
    hkept after hafter]

end Split

/-- The pointer is at a profile exactly if there is one that is active. -/
theorem WellFormed.isSome_activeProfile? (h : c.WellFormed) :
    c.activeProfile?.isSome = c.activeName?.isSome := by
  unfold activeProfile?
  cases hactive : c.activeName? with
  | none => rfl
  | some name =>
    have hmem := contains_iff.mpr (h.active_mem name hactive)
    simpa [contains] using hmem

/-- How a collection comes into being: with no profiles, with the default profile, or with given
profiles. -/
inductive Initial : Collection → Prop
  | empty : Initial .empty
  | withDefault : Initial .withDefault
  | ofProfiles {profiles : List Profile} {active : Option String} {c : Collection}
      (hok : ofProfiles profiles active = .ok c) : Initial c

end Collection

/-- One operation on a collection, with all it is given. A copy is of a profile of this collection
or any other. -/
inductive Operation where
  | add (p : Profile)
  | addChecked (r : Registry) (p : Profile)
  | copy (p : Profile) (name : String)
  | copyChecked (r : Registry) (p : Profile) (name : String)
  | remove (name : String)
  | rename (old new : String)
  | setActive (name : Option String)
  | set (r : Registry) (profile key : String) (raw : Raw)
  | unset (r : Registry) (profile key : String)
  | update (r : Registry) (profile : String) (sets : List (String × Raw)) (unsets : List String)

namespace Operation

variable {op : Operation} {c c' : Collection}

/-- The collection that an operation gives. -/
def apply : Operation → Collection → Except SettingsError Collection
  | add p, c => c.add p
  | addChecked r p, c => c.addChecked r p
  | copy p name, c => do c.add (← p.copyAs name)
  | copyChecked r p name, c => do c.addChecked r (← p.copyAs name)
  | remove name, c => return (← c.remove name).2
  | rename old new, c => c.rename old new
  | setActive name, c => c.setActive name
  | set r profile key raw, c => c.set r profile key raw
  | unset r profile key, c => c.unset r profile key
  | update r profile sets unsets, c => return (← c.update r profile sets unsets).2

/-- The profile that an operation brings into a collection. -/
def brought? : Operation → Option Profile
  | add p | addChecked _ p => some p
  | copy p name | copyChecked _ p name => (p.copyAs name).toOption
  | _ => none

/-- The name of the profile whose settings an operation changes. -/
def edited? : Operation → Option String
  | set _ profile _ _ | unset _ profile _ | update _ profile _ _ => some profile
  | _ => none

/-- What an operation that succeeds does to a collection, in which the profiles have an order: a new
profile comes last, a profile that is not active goes and the others stay as they stand, a profile
takes a new name in its place and the pointer moves along, the pointer moves, or a profile takes new
settings in its place. -/
inductive Changes : Operation → Collection → Collection → Prop
  | bring {op : Operation} {p : Profile} {c : Collection} (hbrought : op.brought? = some p)
      (hnew : p.name.text ∉ c.names) : Changes op c ⟨c.profiles ++ [p], c.active⟩
  | remove {before after : List Profile} {p : Profile} {active : Option ProfileName}
      (hinactive : active ≠ some p.name) :
      Changes (.remove p.name.text) ⟨before ++ p :: after, active⟩ ⟨before ++ after, active⟩
  | rename {before after : List Profile} {p : Profile} {active : Option ProfileName}
      {name : ProfileName} (hnew : ∀ q ∈ before ++ after, q.name ≠ name) :
      Changes (.rename p.name.text name.text) ⟨before ++ p :: after, active⟩
        ⟨before ++ { p with name } :: after, if active = some p.name then some name else active⟩
  | pointNowhere {c : Collection} : Changes (.setActive none) c ⟨c.profiles, none⟩
  | pointAt {c : Collection} {p : Profile} (hmem : p ∈ c.profiles) :
      Changes (.setActive (some p.name.text)) c ⟨c.profiles, some p.name⟩
  | edit {op : Operation} {before after : List Profile} {p : Profile}
      {active : Option ProfileName} {settings : NameMap Raw}
      (hedited : op.edited? = some p.name.text) :
      Changes op ⟨before ++ p :: after, active⟩ ⟨before ++ { p with settings } :: after, active⟩

/-- Names stay distinct through every change. -/
private theorem Changes.nodup_names (hchange : op.Changes c c') (hnodup : c.names.Nodup) :
    c'.names.Nodup := by
  unfold Collection.names at *
  cases hchange with
  | bring hbrought hnew =>
    rw [List.map_append]
    exact hnodup.append (List.nodup_singleton _) (by simpa [Collection.names] using hnew)
  | remove hinactive =>
    exact hnodup.sublist (((List.sublist_cons_self _ _).append_left _).map _)
  | rename hnew =>
    rw [List.map_append, List.map_cons] at hnodup ⊢
    have hrest := (List.nodup_cons.mp (List.nodup_middle.mp hnodup)).2
    refine List.nodup_middle.mpr (List.nodup_cons.mpr ⟨?_, hrest⟩)
    rw [← List.map_append]
    intro hmem
    obtain ⟨q, hq, htext⟩ := List.mem_map.mp hmem
    exact hnew q hq (ProfileName.eq_of_text_eq htext)
  | pointNowhere => exact hnodup
  | pointAt hmem => exact hnodup
  | edit hedited => simpa using hnodup

/-- The pointer stays at a profile that is there through every change. -/
private theorem Changes.active_mem (hchange : op.Changes c c')
    (hactive : ∀ name, c.activeName? = some name → name ∈ c.names) :
    ∀ name, c'.activeName? = some name → name ∈ c'.names := by
  intro name hname
  obtain ⟨q, hq, rfl⟩ := Option.map_eq_some_iff.mp hname
  have hbefore (hsame : c.active = some q) : ∃ p ∈ c.profiles, p.name.text = q.text :=
    Collection.mem_names_iff.mp (hactive q.text (by simp [Collection.activeName?, hsame]))
  rw [Collection.mem_names_iff]
  cases hchange with
  | bring hbrought hnew =>
    obtain ⟨p, hp, htext⟩ := hbefore hq
    exact ⟨p, List.mem_append_left _ hp, htext⟩
  | remove hinactive =>
    obtain ⟨p, hp, htext⟩ := hbefore hq
    rcases List.mem_append.mp hp with hp | hp
    · exact ⟨p, List.mem_append_left _ hp, htext⟩
    · rcases List.mem_cons.mp hp with rfl | hp
      · -- The profile that goes is not the active one.
        rw [ProfileName.eq_of_text_eq htext] at hinactive
        exact absurd hq hinactive
      · exact ⟨p, List.mem_append_right _ hp, htext⟩
  | @rename before after p active new hnew =>
    by_cases hmoved : active = some p.name
    · have hnewest : new = q := by simpa [hmoved] using hq
      exact ⟨{ p with name := new }, by simp, by rw [hnewest]⟩
    · have hstays : active = some q := by simpa [hmoved] using hq
      obtain ⟨other, hother, htext⟩ := hbefore hstays
      have hne : other ≠ p := by
        rintro rfl
        rw [ProfileName.eq_of_text_eq htext] at hmoved
        exact hmoved hstays
      refine ⟨other, ?_, htext⟩
      simp only [List.mem_append, List.mem_cons] at hother ⊢
      rcases hother with hother | hother | hother
      · exact Or.inl hother
      · exact absurd hother hne
      · exact Or.inr (Or.inr hother)
  | pointNowhere => cases hq
  | @pointAt c p hmem => exact ⟨p, hmem, congrArg ProfileName.text (Option.some.inj hq)⟩
  | edit hedited =>
    obtain ⟨p, hp, htext⟩ := hbefore hq
    simp only [List.mem_append, List.mem_cons] at hp
    rcases hp with hp | rfl | hp
    · exact ⟨p, by simp [hp], htext⟩
    · exact ⟨_, List.mem_append_right _ List.mem_cons_self, htext⟩
    · exact ⟨p, by simp [hp], htext⟩

/-- A collection stays well-formed through every change. -/
theorem Changes.wellFormed (hchange : op.Changes c c') (h : c.WellFormed) : c'.WellFormed where
  nodup_names := hchange.nodup_names h.nodup_names
  active_mem := hchange.active_mem h.active_mem

end Operation

namespace Collection

variable {c c' : Collection} {p : Profile}

/-- A profile that is added is new, and comes last. -/
theorem add_eq_ok (hok : c.add p = .ok c') :
    p.name.text ∉ c.names ∧ c' = ⟨c.profiles ++ [p], c.active⟩ := by
  unfold add at hok
  split at hok
  · cases hok
  · next hcontains =>
    cases hok
    exact ⟨fun hmem => hcontains (contains_iff.mpr hmem), rfl⟩

/-- A profile that is added with a check is added. -/
theorem add_of_addChecked {r : Registry} (hok : c.addChecked r p = .ok c') : c.add p = .ok c' := by
  obtain ⟨_, -, hadd⟩ := bind_eq_ok hok
  exact hadd

/-- The profile that is removed is not active, and the others stay as they stand. -/
theorem WellFormed.remove_eq_ok (h : c.WellFormed) {name : String}
    (hok : c.remove name = .ok (p, c')) :
    ∃ before after, c.profiles = before ++ p :: after ∧ p.name.text = name ∧
      c.active ≠ some p.name ∧ c' = ⟨before ++ after, c.active⟩ := by
  obtain ⟨found, hfound, hok⟩ := bind_eq_ok hok
  split at hok
  · cases hok
  · next hinactive =>
    cases hok
    obtain ⟨before, after, hsplit, hname, hbefore, hafter⟩ :=
      h.exists_split (require_eq_ok_iff.mp hfound)
    refine ⟨before, after, hsplit, hname, ?_, ?_⟩
    · intro hactive
      exact hinactive (by simp [activeName?, hactive, hname])
    · rw [hsplit, filter_of_split hname hbefore hafter]

/-- The profile that is renamed takes its new name in its place, and the pointer moves along. -/
theorem WellFormed.rename_eq_ok (h : c.WellFormed) {old new : String}
    (hok : c.rename old new = .ok c') :
    ∃ before p after name, c.profiles = before ++ p :: after ∧ p.name.text = old ∧
      ProfileName.text name = new ∧ (∀ q ∈ before ++ after, q.name ≠ name) ∧
      c' = ⟨before ++ { p with name } :: after,
        if c.active = some p.name then some name else c.active⟩ := by
  obtain ⟨p, hp, hok⟩ := bind_eq_ok hok
  obtain ⟨name, hnew, hok⟩ := bind_eq_ok hok
  have htext := Profile.text_of_nameOf hnew
  obtain ⟨before, after, hsplit, hname, hbefore, hafter⟩ :=
    h.exists_split (require_eq_ok_iff.mp hp)
  split at hok
  · next hsame =>
    -- The old name is given again, and nothing changes.
    cases hok
    have hsamename : name = p.name := ProfileName.eq_of_text_eq (by rw [htext, hname, hsame])
    refine ⟨before, p, after, name, hsplit, hname, htext, ?_, ?_⟩
    · intro q hq heq
      rcases List.mem_append.mp hq with hq | hq
      · exact hbefore q hq (by rw [heq, htext, hsame])
      · exact hafter q hq (by rw [heq, htext, hsame])
    · rw [hsamename, ← hsplit]
      split
      · next hactive => rw [← hactive]
      · rfl
  · split at hok
    · cases hok
    · next hcontains =>
      cases hok
      refine ⟨before, p, after, name, hsplit, hname, htext, ?_, ?_⟩
      · intro q hq heq
        refine hcontains (contains_iff.mpr (mem_names_iff.mpr ⟨q, ?_, by rw [heq, htext]⟩))
        rw [hsplit]
        rcases List.mem_append.mp hq with hq | hq
        · exact List.mem_append_left _ hq
        · exact List.mem_append_right _ (List.mem_cons_of_mem p hq)
      · rw [hsplit, map_of_split hname hbefore hafter]
        have hiff : c.activeName? = some old ↔ c.active = some p.name := by
          unfold activeName?
          rw [Option.map_eq_some_iff]
          constructor
          · rintro ⟨q, hq, hqtext⟩
            rw [hq, ProfileName.eq_of_text_eq (hqtext.trans hname.symm)]
          · intro hactive
            exact ⟨p.name, hactive, hname⟩
        simp only [hiff]

/-- Settings that are put into a profile replace those of this one only, in its place. -/
theorem WellFormed.putSettings_of_get? (h : c.WellFormed) {name : String}
    (hget : c.get? name = some p) :
    ∃ before after, c.profiles = before ++ p :: after ∧ p.name.text = name ∧
      ∀ settings, c.putSettings name settings =
        ⟨before ++ { p with settings } :: after, c.active⟩ := by
  obtain ⟨before, after, hsplit, hname, hbefore, hafter⟩ := h.exists_split hget
  refine ⟨before, after, hsplit, hname, fun settings => ?_⟩
  unfold putSettings
  rw [hsplit, map_of_split hname hbefore hafter]

/-- The profile that an update is for takes its new settings in its place. -/
theorem WellFormed.update_eq_ok (h : c.WellFormed) {r : Registry} {profile : String}
    {sets : List (String × Raw)} {unsets : List String} {applied : SettingsUpdate}
    (hok : c.update r profile sets unsets = .ok (applied, c')) :
    ∃ before p after settings, c.profiles = before ++ p :: after ∧ p.name.text = profile ∧
      c' = ⟨before ++ { p with settings } :: after, c.active⟩ := by
  obtain ⟨p, hp, hok⟩ := bind_eq_ok hok
  obtain ⟨_, -, hok⟩ := bind_eq_ok hok
  obtain ⟨_, -, hok⟩ := bind_eq_ok hok
  obtain ⟨kept, -, hok⟩ := bind_eq_ok hok
  obtain ⟨_, -, hok⟩ := bind_eq_ok hok
  cases hok
  obtain ⟨before, after, hsplit, hname, hput⟩ := h.putSettings_of_get? (require_eq_ok_iff.mp hp)
  exact ⟨before, p, after, _, hsplit, hname, hput _⟩

end Collection

namespace Operation

variable {op : Operation} {c c' : Collection}

/-- An operation that succeeds on a well-formed collection changes it in one of the ways above. -/
theorem changes_of_apply (h : c.WellFormed) (hok : op.apply c = .ok c') : op.Changes c c' := by
  cases op with
  | add p =>
    obtain ⟨hnew, rfl⟩ := Collection.add_eq_ok hok
    exact .bring rfl hnew
  | addChecked r p =>
    obtain ⟨hnew, rfl⟩ := Collection.add_eq_ok (Collection.add_of_addChecked hok)
    exact .bring rfl hnew
  | copy p name =>
    obtain ⟨q, hcopy, hok⟩ := bind_eq_ok hok
    obtain ⟨hnew, rfl⟩ := Collection.add_eq_ok hok
    exact .bring (by simp [brought?, hcopy, Except.toOption]) hnew
  | copyChecked r p name =>
    obtain ⟨q, hcopy, hok⟩ := bind_eq_ok hok
    obtain ⟨hnew, rfl⟩ := Collection.add_eq_ok (Collection.add_of_addChecked hok)
    exact .bring (by simp [brought?, hcopy, Except.toOption]) hnew
  | remove name =>
    obtain ⟨⟨p, left⟩, hremove, hok⟩ := bind_eq_ok hok
    cases hok
    obtain ⟨before, after, hsplit, rfl, hinactive, rfl⟩ := h.remove_eq_ok hremove
    cases c
    cases hsplit
    exact .remove hinactive
  | rename old new =>
    obtain ⟨before, p, after, name, hsplit, rfl, rfl, hnew, rfl⟩ := h.rename_eq_ok hok
    cases c
    cases hsplit
    exact .rename hnew
  | setActive name =>
    cases name with
    | none =>
      cases hok
      exact .pointNowhere
    | some name =>
      obtain ⟨p, hp, hok⟩ := bind_eq_ok hok
      cases hok
      obtain ⟨hmem, rfl⟩ := Collection.mem_of_get? (Collection.require_eq_ok_iff.mp hp)
      exact .pointAt hmem
  | set r profile key raw =>
    obtain ⟨⟨applied, edited⟩, hupdate, hok⟩ := bind_eq_ok hok
    cases hok
    exact edit_of_update rfl h hupdate
  | unset r profile key =>
    obtain ⟨⟨applied, edited⟩, hupdate, hok⟩ := bind_eq_ok hok
    cases hok
    exact edit_of_update rfl h hupdate
  | update r profile sets unsets =>
    obtain ⟨⟨applied, edited⟩, hupdate, hok⟩ := bind_eq_ok hok
    cases hok
    exact edit_of_update rfl h hupdate
where
  /-- An update edits the settings of one profile. -/
  edit_of_update {op : Operation} {c c' : Collection} {r : Registry} {profile : String}
      {sets : List (String × Raw)} {unsets : List String} {applied : SettingsUpdate}
      (hedited : op.edited? = some profile) (h : c.WellFormed)
      (hok : c.update r profile sets unsets = .ok (applied, c')) : op.Changes c c' := by
    obtain ⟨before, p, after, settings, hsplit, rfl, rfl⟩ := h.update_eq_ok hok
    cases c
    cases hsplit
    exact .edit hedited

/-- An operation that succeeds keeps a collection well-formed. -/
theorem wellFormed_of_apply (op : Operation) (h : c.WellFormed) (hok : op.apply c = .ok c') :
    c'.WellFormed :=
  (changes_of_apply h hok).wellFormed h

end Operation

/-- Adding profiles one after another keeps a collection well-formed. -/
private theorem wellFormed_of_foldlM_add {profiles : List Profile} {c c' : Collection}
    (h : c.WellFormed) (hok : profiles.foldlM Collection.add c = .ok c') : c'.WellFormed := by
  induction profiles generalizing c with
  | nil =>
    cases hok
    exact h
  | cons p rest ih =>
    obtain ⟨added, hadd, hrest⟩ := bind_eq_ok hok
    exact ih (Operation.wellFormed_of_apply (.add p) h hadd) hrest

/-- However a collection comes into being, it is well-formed. -/
theorem Collection.Initial.wellFormed {c : Collection} (h : c.Initial) : c.WellFormed := by
  have hempty : Collection.empty.WellFormed :=
    ⟨List.nodup_nil, fun name hname => by cases hname⟩
  cases h with
  | empty => exact hempty
  | withDefault =>
    constructor
    · exact List.nodup_singleton _
    · intro name hname
      cases hname
      exact List.mem_cons_self
  | @ofProfiles profiles active c hok =>
    obtain ⟨added, hadded, hactive⟩ := bind_eq_ok hok
    have h := wellFormed_of_foldlM_add hempty hadded
    exact Operation.wellFormed_of_apply (.setActive active) h hactive

end LayeredSettings
