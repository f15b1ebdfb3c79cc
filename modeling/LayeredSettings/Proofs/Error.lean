import LayeredSettings.Error
import Mathlib.Data.List.Forall2

/-!
# Calculations that may fail

What the result of a calculation tells of its steps: one that succeeded went through all of them,
and one that failed was stopped by the first that did. Work on a state goes on from the state that
a step leaves, also if the step fails.
-/

namespace LayeredSettings

variable {ε α β : Type}

/-- A successful step of a calculation followed by another one. -/
theorem bind_eq_ok {x : Except ε α} {f : α → Except ε β} {b : β}
    (h : (x >>= f) = .ok b) : ∃ a, x = .ok a ∧ f a = .ok b := by
  cases x with
  | error e => cases h
  | ok a => exact ⟨a, rfl, h⟩

/-- A calculation followed by another one fails if the first does, or else if the second does. -/
theorem bind_eq_error {x : Except ε α} {f : α → Except ε β} {e : ε}
    (h : (x >>= f) = .error e) : x = .error e ∨ ∃ a, x = .ok a ∧ f a = .error e := by
  cases x with
  | error other =>
    cases h
    exact Or.inl rfl
  | ok a => exact Or.inr ⟨a, rfl, h⟩

/-- After a calculation that succeeds, the next one goes on with its result. -/
theorem bind_of_ok {x : Except ε α} {f : α → Except ε β} {a : α} (h : x = .ok a) :
    (x >>= f) = f a := by
  rw [h]
  rfl

/-- After a calculation that fails there is no next one. -/
theorem bind_of_error {x : Except ε α} {f : α → Except ε β} {e : ε} (h : x = .error e) :
    (x >>= f) = .error e := by
  rw [h]
  rfl

/-- A calculation for each element of a list that succeeds for all of them. -/
theorem mapM_eq_ok {f : α → Except ε β} {g : α → β} {l : List α}
    (hok : ∀ a ∈ l, f a = .ok (g a)) : l.mapM f = .ok (l.map g) := by
  induction l with
  | nil => rfl
  | cons head rest ih =>
    rw [List.mapM_cons, hok head List.mem_cons_self,
      ih fun a ha => hok a (List.mem_cons_of_mem head ha)]
    rfl

/-- A calculation for each element of a list fails with the first element that it fails for. -/
theorem mapM_of_first_error {f : α → Except ε β} {fails : α → Bool} {l : List α}
    {a : α} {e : ε} (hfirst : l.find? fails = some a) (herr : f a = .error e)
    (hok : ∀ b ∈ l, fails b = false → ∃ y, f b = .ok y) : l.mapM f = .error e := by
  induction l with
  | nil => cases hfirst
  | cons head rest ih =>
    rw [List.mapM_cons]
    cases hhead : fails head with
    | true =>
      rw [List.find?_cons_of_pos hhead] at hfirst
      rw [Option.some.inj hfirst, herr]
      rfl
    | false =>
      rw [List.find?_cons_of_neg (by simp [hhead])] at hfirst
      obtain ⟨y, hy⟩ := hok head List.mem_cons_self hhead
      rw [hy, ih hfirst fun b hb => hok b (List.mem_cons_of_mem head hb)]
      rfl

/-- A calculation for each element of a list succeeds exactly if it does so for all of them. -/
theorem mapM_eq_ok_iff {f : α → Except ε β} {l : List α} {found : List β} :
    l.mapM f = .ok found ↔ List.Forall₂ (fun a b => f a = .ok b) l found := by
  induction l generalizing found with
  | nil =>
    rw [List.forall₂_nil_left_iff]
    exact ⟨fun h => (Except.ok.inj h).symm, fun h => by rw [h]; rfl⟩
  | cons head rest ih =>
    rw [List.mapM_cons, List.forall₂_cons_left_iff]
    constructor
    · intro hok
      obtain ⟨b, hb, hok⟩ := bind_eq_ok hok
      obtain ⟨tail, htail, hok⟩ := bind_eq_ok hok
      cases hok
      exact ⟨b, tail, hb, ih.mp htail, rfl⟩
    · rintro ⟨b, tail, hb, htail, rfl⟩
      rw [hb, ih.mpr htail]
      rfl

/-- A calculation for each element of a list fails exactly as it does for the first element that it
fails for. -/
theorem mapM_eq_error_iff {f : α → Except ε β} {l : List α} {e : ε} :
    l.mapM f = .error e ↔ ∃ before a after, l = before ++ a :: after ∧
      (∀ b ∈ before, ∃ y, f b = .ok y) ∧ f a = .error e := by
  induction l with
  | nil => simp [pure, Except.pure]
  | cons head rest ih =>
    rw [List.mapM_cons]
    constructor
    · intro herr
      rcases bind_eq_error herr with hhead | ⟨y, hy, herr⟩
      · exact ⟨[], head, rest, rfl, by simp, hhead⟩
      · rcases bind_eq_error herr with hrest | ⟨_, -, hpure⟩
        · obtain ⟨before, a, after, rfl, hbefore, ha⟩ := ih.mp hrest
          refine ⟨head :: before, a, after, rfl, fun b hb => ?_, ha⟩
          rcases List.mem_cons.mp hb with rfl | hb
          · exact ⟨y, hy⟩
          · exact hbefore b hb
        · cases hpure
    · rintro ⟨before, a, after, hsplit, hbefore, ha⟩
      cases before with
      | nil =>
        obtain ⟨rfl, -⟩ := List.cons.inj hsplit
        rw [ha]
        rfl
      | cons first tail =>
        obtain ⟨rfl, hrest⟩ := List.cons.inj hsplit
        obtain ⟨y, hy⟩ := hbefore head List.mem_cons_self
        rw [hy, ih.mpr ⟨tail, a, after, hrest, fun b hb =>
          hbefore b (List.mem_cons_of_mem _ hb), ha⟩]
        rfl

/-- What each step of a calculation over a list preserves holds in the end. -/
theorem of_foldlM_eq_ok {σ : Type} {P : σ → Prop} {f : σ → α → Except ε σ} {l : List α}
    (hstep : ∀ s, P s → ∀ a ∈ l, ∀ t, f s a = .ok t → P t) {s t : σ} (hs : P s)
    (hok : l.foldlM f s = .ok t) : P t := by
  induction l generalizing s with
  | nil =>
    cases hok
    exact hs
  | cons a rest ih =>
    rw [List.foldlM_cons] at hok
    obtain ⟨next, hnext, hrest⟩ := bind_eq_ok hok
    exact ih (fun s hs b hb => hstep s hs b (List.mem_cons_of_mem a hb))
      (hstep s hs a List.mem_cons_self next hnext) hrest

/-- No failures are success. -/
theorem SettingsError.ofFailures_eq_ok_iff {failures : List Failure} {u : Unit} :
    ofFailures failures = .ok u ↔ failures = [] := by
  unfold ofFailures
  cases failures <;> simp

/-- Where something failed, all failures are the error. -/
theorem SettingsError.ofFailures_of_mem {failure : Failure} {failures : List Failure}
    (hmem : failure ∈ failures) : ofFailures failures = .error (.validation failures) := by
  unfold ofFailures
  cases failures with
  | nil => cases hmem
  | cons first rest => rfl

/-- The only error is of all failures, of which there are some. -/
theorem SettingsError.ofFailures_eq_error_iff {failures : List Failure} {e : SettingsError} :
    ofFailures failures = .error e ↔ failures ≠ [] ∧ e = .validation failures := by
  unfold ofFailures
  cases failures <;> simp [eq_comm]

section State

variable {σ : Type} {x : ExceptT ε (StateM σ) α} {f : α → ExceptT ε (StateM σ) β} {s t : σ}

/-- After a step that succeeds, work goes on with its result from the state that it leaves. -/
theorem run_bind_of_ok {a : α} (hstep : x s = (.ok a, t)) : (x >>= f) s = f a t := by
  change (match x s with | (result, left) => ExceptT.bindCont f result left) = f a t
  rw [hstep]
  rfl

/-- A step that fails ends the work, in the state that it leaves. -/
theorem run_bind_of_error {e : ε} (hstep : x s = (.error e, t)) :
    (x >>= f) s = (.error e, t) := by
  change (match x s with | (result, left) => ExceptT.bindCont f result left) = _
  rw [hstep]
  rfl

/-- Work that succeeds went through all of its steps. -/
theorem run_bind_eq_ok {b : β} (h : (x >>= f) s = (.ok b, t)) :
    ∃ a between, x s = (.ok a, between) ∧ f a between = (.ok b, t) := by
  cases hran : x s with
  | mk result between =>
    cases result with
    | error e =>
      rw [run_bind_of_error hran] at h
      cases h
    | ok a =>
      rw [run_bind_of_ok hran] at h
      exact ⟨a, between, rfl, h⟩

end State

end LayeredSettings
