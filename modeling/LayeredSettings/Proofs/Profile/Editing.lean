import LayeredSettings.Proofs.Profile.Operations

/-!
# Editing a collection in place

Whoever holds a collection sees an operation as a series of steps at one place: a profile is sought
by its position, checks are made, and what was changed before a check that fails stays changed. Done
so, an operation still leaves a well-formed collection as it was if it fails, and otherwise leaves
what the operation gives; the order of the steps and the distinct names make it so. The main
statement says this of every operation after any others.
-/

namespace LayeredSettings

/-- Work on a collection in its place. What was changed before a failure stays changed. -/
abbrev Edit (α : Type) := ExceptT SettingsError (StateM Collection) α

namespace Edit

/-- A result that changes nothing. -/
def ofExcept {α : Type} (result : Except SettingsError α) : Edit α := fun c => (result, c)

/-- Goes on unless the collection as it stands gives cause for an error. -/
def refuse (cause : Collection → Bool) (e : SettingsError) : Edit Unit := fun c =>
  if cause c then (.error e, c) else (.ok (), c)

/-- The collection changed. -/
def change (f : Collection → Collection) : Edit Unit := fun c => (.ok (), f c)

/-- The position of the profile of a name. -/
def position (name : String) : Edit ℕ := fun c =>
  match c.profiles.findIdx? (·.name.text = name) with
  | some position => (.ok position, c)
  | none => (.error (.profileNotFound name), c)

/-- A profile put at the end. -/
def add (p : Profile) : Edit Unit := do
  refuse (·.contains p.name.text) (.duplicateName p.name.text)
  change fun c => { c with profiles := c.profiles ++ [p] }

/-- A profile put at the end once its stored values have been checked. -/
def addChecked (r : Registry) (p : Profile) : Edit Unit := do
  ofExcept (p.validate r)
  add p

/-- The profile of a name taken out of its position. -/
def remove (name : String) : Edit Unit := do
  let position ← position name
  refuse (·.activeName? = some name) (.activeProfile name)
  change fun c => { c with profiles := c.profiles.eraseIdx position }

/-- The profile of a name given another name at its position, after the pointer was moved. -/
def rename (old new : String) : Edit Unit := do
  let position ← position old
  let name ← ofExcept (Profile.nameOf new)
  if old = new then return
  refuse (·.contains new) (.duplicateName new)
  change fun c => if c.activeName? = some old then { c with active := some name } else c
  change fun c => { c with profiles := c.profiles.modify position ({ · with name }) }

/-- The pointer put at the profile of a name, or nowhere. -/
def setActive : Option String → Edit Unit
  | none => change fun c => { c with active := none }
  | some name => do
    let p ← ofExcept ((← get).require name)
    change fun c => { c with active := some p.name }

/-- The settings of the profile of a name taken out, changed, and put back at its position. -/
def update (r : Registry) (profile : String) (sets : List (String × Raw))
    (unsets : List String) : Edit Unit := do
  let position ← position profile
  let sets ← ofExcept (sets.mapM fun (key, raw) => return (← r.lookup key, raw))
  let unsets ← ofExcept (unsets.mapM fun key => return (← r.lookup key, key))
  let p ← ofExcept ((← get).require profile)
  let kept ← ofExcept (Collection.removeAll r profile p.settings unsets)
  ofExcept (SettingsError.ofFailures (Collection.batchFailures r sets))
  let settings := sets.foldl (fun settings (d, raw) => Collection.replace r settings d raw) kept
  change fun c => { c with profiles := c.profiles.modify position ({ · with settings }) }

/-- What a calculation leaves of a collection that it is to change: the changed one, or the same one
if it fails. -/
def settled (c : Collection) (result : Except SettingsError Collection) :
    Except SettingsError Unit × Collection :=
  match result with
  | .ok changed => (.ok (), changed)
  | .error e => (.error e, c)

variable {c : Collection}

/-- A cause for an error ends the work. -/
theorem refuse_of_cause {cause : Collection → Bool} {e : SettingsError} (h : cause c) :
    refuse cause e c = (.error e, c) := if_pos h

/-- Without a cause for an error the work goes on. -/
theorem refuse_of_no_cause {cause : Collection → Bool} {e : SettingsError} (h : ¬ cause c) :
    refuse cause e c = (.ok (), c) := if_neg h

/-- The position of a profile is the number of those before it. -/
theorem position_of_split {name : String} {before after : List Profile} {p : Profile}
    (hsplit : c.profiles = before ++ p :: after) (hname : p.name.text = name)
    (hbefore : ∀ q ∈ before, q.name.text ≠ name) :
    position name c = (.ok before.length, c) := by
  have hnone : before.findIdx? (·.name.text = name) = none := by
    simpa using hbefore
  have hfind : c.profiles.findIdx? (·.name.text = name) = some before.length := by
    rw [hsplit, List.findIdx?_append, hnone, List.findIdx?_cons]
    simp [hname]
  unfold position
  rw [hfind]

/-- A name that no profile has gives no position, but the error that there is no such profile. -/
theorem position_of_require_error {name : String} {e : SettingsError}
    (herror : c.require name = .error e) : position name c = (.error e, c) := by
  unfold Collection.require at herror
  cases hget : c.get? name with
  | some p => simp [hget] at herror
  | none =>
    have he : SettingsError.profileNotFound name = e := by simpa [hget] using herror
    have hfind : c.profiles.findIdx? (·.name.text = name) = none := by
      simpa [Collection.get?] using hget
    unfold position
    rw [hfind, he]

/-- What is done to the profile at its position is done between the others. -/
theorem modify_of_split (f : Profile → Profile) (before after : List Profile) (p : Profile) :
    (before ++ p :: after).modify before.length f = before ++ f p :: after := by
  induction before with
  | nil => rfl
  | cons q rest ih =>
    rw [List.cons_append, List.length_cons, List.modify_succ_cons, ih, List.cons_append]

/-- What is taken out at the position of a profile is the profile between the others. -/
theorem eraseIdx_of_split (before after : List Profile) (p : Profile) :
    (before ++ p :: after).eraseIdx before.length = before ++ after := by
  rw [List.eraseIdx_append_of_length_le (Nat.le_refl _), Nat.sub_self, List.eraseIdx_cons_zero]

/-- Adding in place leaves what adding gives. -/
theorem add_eq (p : Profile) : add p c = settled c (c.add p) := by
  unfold Collection.add
  by_cases hcontains : c.contains p.name.text
  · rw [if_pos hcontains]
    exact run_bind_of_error (refuse_of_cause hcontains)
  · rw [if_neg hcontains]
    exact run_bind_of_ok (refuse_of_no_cause hcontains)

/-- Adding with a check in place leaves what adding with a check gives. -/
theorem addChecked_eq (r : Registry) (p : Profile) :
    addChecked r p c = settled c (c.addChecked r p) := by
  unfold addChecked Collection.addChecked
  cases hvalid : p.validate r with
  | error e => rfl
  | ok u => exact add_eq p

/-- Removing in place leaves what removing gives. -/
theorem remove_eq (h : c.WellFormed) (name : String) :
    remove name c = settled c (return (← c.remove name).2) := by
  unfold Collection.remove
  cases hrequire : c.require name with
  | error e => exact run_bind_of_error (position_of_require_error hrequire)
  | ok p =>
    obtain ⟨before, after, hsplit, hname, hbefore, hafter⟩ :=
      h.exists_split (Collection.require_eq_ok_iff.mp hrequire)
    refine (run_bind_of_ok (position_of_split hsplit hname hbefore)).trans ?_
    by_cases hactive : c.activeName? = some name
    · rw [run_bind_of_error (refuse_of_cause (by simpa using hactive))]
      simp only [bind, Except.bind, if_pos hactive, settled]
    · rw [run_bind_of_ok (refuse_of_no_cause (by simpa using hactive))]
      have hleft : c.profiles.eraseIdx before.length =
          c.profiles.filter (·.name.text ≠ name) := by
        rw [hsplit, eraseIdx_of_split, Collection.filter_of_split hname hbefore hafter]
      simp only [bind, Except.bind, if_neg hactive, settled, change, hleft, pure, Except.pure]

/-- Renaming in place leaves what renaming gives. -/
theorem rename_eq (h : c.WellFormed) (old new : String) :
    rename old new c = settled c (c.rename old new) := by
  unfold Collection.rename
  cases hrequire : c.require old with
  | error e => exact run_bind_of_error (position_of_require_error hrequire)
  | ok p =>
    obtain ⟨before, after, hsplit, hname, hbefore, hafter⟩ :=
      h.exists_split (Collection.require_eq_ok_iff.mp hrequire)
    refine (run_bind_of_ok (position_of_split hsplit hname hbefore)).trans ?_
    cases hnew : Profile.nameOf new with
    | error e => rfl
    | ok name =>
      have hmodify : c.profiles.modify before.length ({ · with name }) =
          c.profiles.map fun p => if p.name.text = old then { p with name } else p := by
        rw [hsplit, modify_of_split, Collection.map_of_split hname hbefore hafter]
      refine (run_bind_of_ok (a := name) (t := c) rfl).trans ?_
      by_cases hsame : old = new
      · simp only [bind, Except.bind, if_pos hsame, settled]
        rfl
      · by_cases hcontains : c.contains new
        · simp only [bind, Except.bind, if_neg hsame, if_pos hcontains, settled]
          exact run_bind_of_error (refuse_of_cause hcontains)
        · simp only [bind, Except.bind, if_neg hsame, if_neg hcontains, settled]
          refine (run_bind_of_ok (refuse_of_no_cause hcontains)).trans ?_
          refine (run_bind_of_ok (a := ()) rfl).trans ?_
          by_cases hactive : c.activeName? = some old
          · simp only [change, if_pos hactive, hmodify]
            rfl
          · simp only [change, if_neg hactive, hmodify]
            rfl

/-- Pointing in place leaves what pointing gives. -/
theorem setActive_eq (name : Option String) : setActive name c = settled c (c.setActive name) := by
  cases name with
  | none => rfl
  | some name =>
    refine (run_bind_of_ok (a := c) (t := c) rfl).trans ?_
    change _ = settled c (do return { c with active := some (← c.require name).name })
    cases hrequire : c.require name with
    | error e => rfl
    | ok p => rfl

/-- Updating in place leaves what updating gives. -/
theorem update_eq (h : c.WellFormed) (r : Registry) (profile : String)
    (sets : List (String × Raw)) (unsets : List String) :
    update r profile sets unsets c =
      settled c (return (← c.update r profile sets unsets).2) := by
  unfold Collection.update
  cases hrequire : c.require profile with
  | error e => exact run_bind_of_error (position_of_require_error hrequire)
  | ok p =>
    obtain ⟨before, after, hsplit, hname, hbefore, hafter⟩ :=
      h.exists_split (Collection.require_eq_ok_iff.mp hrequire)
    refine (run_bind_of_ok (position_of_split hsplit hname hbefore)).trans ?_
    have hmodify (settings : NameMap Raw) :
        c.profiles.modify before.length ({ · with settings }) =
          (c.putSettings profile settings).profiles := by
      unfold Collection.putSettings
      rw [hsplit, modify_of_split, Collection.map_of_split hname hbefore hafter]
    cases sets.mapM fun (key, raw) => do return (← r.lookup key, raw) with
    | error e => rfl
    | ok sets =>
      refine (run_bind_of_ok (a := sets) (t := c) rfl).trans ?_
      cases unsets.mapM fun key => do return (← r.lookup key, key) with
      | error e => rfl
      | ok unsets =>
        refine (run_bind_of_ok (a := unsets) (t := c) rfl).trans ?_
        refine (run_bind_of_ok (a := c) (t := c) rfl).trans ?_
        rw [hrequire]
        refine (run_bind_of_ok (a := p) (t := c) rfl).trans ?_
        cases hkept : Collection.removeAll r profile p.settings unsets with
        | error e =>
          simp only [bind, Except.bind, hkept, settled]
          rfl
        | ok kept =>
          refine (run_bind_of_ok (a := kept) (t := c) rfl).trans ?_
          cases hfits : SettingsError.ofFailures (Collection.batchFailures r sets) with
          | error e =>
            simp only [bind, Except.bind, hkept, hfits, settled]
            rfl
          | ok u =>
            refine (run_bind_of_ok (a := u) (t := c) rfl).trans ?_
            simp only [bind, Except.bind, hkept, hfits, settled, change, hmodify]
            rfl

end Edit

namespace Operation

/-- An operation performed in place. -/
def perform : Operation → Edit Unit
  | add p => Edit.add p
  | addChecked r p => Edit.addChecked r p
  | copy p name => do Edit.add (← Edit.ofExcept (p.copyAs name))
  | copyChecked r p name => do Edit.addChecked r (← Edit.ofExcept (p.copyAs name))
  | remove name => Edit.remove name
  | rename old new => Edit.rename old new
  | setActive name => Edit.setActive name
  | set r profile key raw => Edit.update r profile [(key, raw)] []
  | unset r profile key => Edit.update r profile [] [key]
  | update r profile sets unsets => Edit.update r profile sets unsets

/-- An operation performed in place leaves what the operation gives, and changes nothing if it
fails. -/
theorem perform_eq {c : Collection} (h : c.WellFormed) (op : Operation) :
    op.perform c = Edit.settled c (op.apply c) := by
  cases op with
  | add p => exact Edit.add_eq p
  | addChecked r p => exact Edit.addChecked_eq r p
  | copy p name =>
    change (do Edit.add (← Edit.ofExcept (p.copyAs name)) : Edit Unit) c =
      Edit.settled c (do c.add (← p.copyAs name))
    cases p.copyAs name with
    | error e => rfl
    | ok q => exact Edit.add_eq q
  | copyChecked r p name =>
    change (do Edit.addChecked r (← Edit.ofExcept (p.copyAs name)) : Edit Unit) c =
      Edit.settled c (do c.addChecked r (← p.copyAs name))
    cases p.copyAs name with
    | error e => rfl
    | ok q => exact Edit.addChecked_eq r q
  | remove name => exact Edit.remove_eq h name
  | rename old new => exact Edit.rename_eq h old new
  | setActive name => exact Edit.setActive_eq name
  | set r profile key raw => exact Edit.update_eq h r profile [(key, raw)] []
  | unset r profile key => exact Edit.update_eq h r profile [] [key]
  | update r profile sets unsets => exact Edit.update_eq h r profile sets unsets

end Operation

namespace Collection

variable {c : Collection}

/-- The collection after operations performed one after another, whether they succeed or fail. -/
def after (c : Collection) (history : List Operation) : Collection :=
  history.foldl (fun c op => (op.perform c).2) c

/-- An operation performed in place leaves a well-formed collection well-formed. -/
theorem WellFormed.perform (h : c.WellFormed) (op : Operation) : (op.perform c).2.WellFormed := by
  rw [Operation.perform_eq h]
  cases hok : op.apply c with
  | error e => exact h
  | ok changed => exact Operation.wellFormed_of_apply op h hok

/-- Operations performed one after another leave a well-formed collection well-formed. -/
theorem WellFormed.after (h : c.WellFormed) (history : List Operation) :
    (c.after history).WellFormed := by
  induction history generalizing c with
  | nil => exact h
  | cons op rest ih => exact ih (h.perform op)

/-- However a collection comes into being and whatever operations follow, names are distinct and
valid, and the pointer is nowhere or at a profile that is there. The next operation then either
succeeds and makes its change, which keeps the order of the profiles, or fails and leaves the
collection exactly as it was. -/
theorem wellFormed_and_atomic {start : Collection} (hstart : start.Initial)
    (history : List Operation) :
    let c := start.after history
    c.WellFormed ∧ (∀ name ∈ c.names, ∃ valid, ProfileName.ofText name = .ok valid) ∧
      c.activeProfile?.isSome = c.activeName?.isSome ∧
      ∀ op : Operation,
        (∃ c', op.perform c = (.ok (), c') ∧ op.apply c = .ok c' ∧ op.Changes c c') ∨
          ∃ e, op.perform c = (.error e, c) ∧ op.apply c = .error e := by
  intro c
  have h : c.WellFormed := hstart.wellFormed.after history
  refine ⟨h, ?_, h.isSome_activeProfile?, ?_⟩
  · intro name hname
    obtain ⟨p, -, rfl⟩ := mem_names_iff.mp hname
    exact ⟨p.name, p.name.ofText_text⟩
  · intro op
    rw [Operation.perform_eq h]
    cases hresult : op.apply c with
    | ok c' => exact Or.inl ⟨c', rfl, rfl, Operation.changes_of_apply h hresult⟩
    | error e => exact Or.inr ⟨e, rfl, rfl⟩

/-- A copy comes last, the active profile keeps its place and the pointer under a new name, and it
cannot be removed then. -/
theorem wellFormed_and_atomic_of_rename :
    let c := withDefault.after
      [.copy (.named defaultName) "dev", .rename "default" "main", .remove "main"]
    withDefault.Initial ∧ c.names = ["main", "dev"] ∧ c.activeName? = some "main" ∧
      c.WellFormed ∧ (∀ name ∈ c.names, ∃ valid, ProfileName.ofText name = .ok valid) ∧
      c.activeProfile?.isSome = c.activeName?.isSome ∧
      ∀ op : Operation,
        (∃ c', op.perform c = (.ok (), c') ∧ op.apply c = .ok c' ∧ op.Changes c c') ∨
          ∃ e, op.perform c = (.error e, c) ∧ op.apply c = .error e := by
  intro c
  obtain ⟨h, hvalid, hpointer, hatomic⟩ := wellFormed_and_atomic .withDefault
    [.copy (.named defaultName) "dev", .rename "default" "main", .remove "main"]
  exact ⟨.withDefault, by decide +kernel, by decide +kernel, h, hvalid, hpointer, hatomic⟩

end Collection

end LayeredSettings
