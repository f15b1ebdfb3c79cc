import LayeredSettings.Proofs.Settings.Supplied

/-!
# Merging the layers

Each layer that supplies a value for a setting replaces the entry as it stood, so the last one
counts. A resolution that succeeds has found nothing wrong with any value that a layer supplied, and
leaves one entry for each definition.
-/

namespace LayeredSettings

variable {r : Registry} {d : Definition}

/-- An entry keeps its name when it takes a value. -/
@[simp] theorem Entry.accept_name (e : Entry) (supply : Supply) :
    (e.accept supply).name = e.name := by
  unfold Entry.accept
  split <;> rfl

/-- A definition's default entry carries its name. -/
@[simp] theorem Definition.defaultEntry_name (d : Definition) : d.defaultEntry.name = d.name := by
  unfold Definition.defaultEntry
  split <;> rfl

/-- A definition's default entry comes from the defaults. -/
@[simp] theorem Definition.defaultEntry_source (d : Definition) :
    d.defaultEntry.source = .default := by
  unfold Definition.defaultEntry
  split <;> rfl

/-- However much an entry accepts, its name stays. -/
private theorem foldl_accept_name (e : Entry) (supplied : List Supply) :
    (supplied.foldl Entry.accept e).name = e.name := by
  induction supplied generalizing e with
  | nil => rfl
  | cons supply rest ih => rw [List.foldl_cons, ih, Entry.accept_name]

/-- The entry of a setting carries its name, whatever is supplied. -/
@[simp] theorem mergedEntry_name (d : Definition) (supplied : List Supply) :
    (mergedEntry d supplied).name = d.name := by
  rw [mergedEntry, foldl_accept_name, Definition.defaultEntry_name]

/-- Without any layer above it, the default stands. -/
@[simp] theorem mergedEntry_nil (d : Definition) : mergedEntry d [] = d.defaultEntry := rfl

/-- A value that fits replaces whatever the layers below it have left. -/
theorem mergedEntry_concat (d : Definition) (lower : List Supply) (source : Source)
    (value : Value) :
    mergedEntry d (lower ++ [⟨source, .ok value⟩]) = ⟨d.name, some value, source⟩ := by
  have hname := mergedEntry_name d lower
  unfold mergedEntry at hname ⊢
  rw [List.foldl_append, ← hname]
  rfl

/-- Nothing is wrong with the supplied values exactly if all of them fit. -/
theorem supplyFailures_eq_nil_iff {supplied : List Supply} :
    supplyFailures d supplied = [] ↔ ∀ supply ∈ supplied, ∃ value, supply.outcome = .ok value := by
  unfold supplyFailures
  rw [List.filterMap_eq_nil_iff]
  refine forall₂_congr fun supply _ => ?_
  cases supply.outcome <;> simp

/-- What a successful resolution has done: it found the profile to read and the settings of all
overrides, found nothing wrong with what the layers supply, and filled the templates that are left.
-/
theorem resolve_eq_ok {env : Environment} {c : Collection} {profile : Option String}
    {overrides : Overrides} {s : Settings} (hok : resolve r env c profile overrides = .ok s) :
    ∃ chosen named,
      chosenProfile c profile = .ok chosen ∧ canonicalOverrides r overrides = .ok named ∧
      (∀ d ∈ r.definitions, ∀ supply ∈ supplies r (storedValues r chosen) env named d,
        ∃ value, supply.outcome = .ok value) ∧
      expandTemplates r (r.definitions.map fun d =>
        mergedEntry d (supplies r (storedValues r chosen) env named d)) = .ok s.entries := by
  obtain ⟨chosen, hchosen, hok⟩ := bind_eq_ok hok
  obtain ⟨named, hnamed, hok⟩ := bind_eq_ok hok
  obtain ⟨_, hfailures, hok⟩ := bind_eq_ok hok
  obtain ⟨entries, hentries, hok⟩ := bind_eq_ok hok
  cases hok
  refine ⟨chosen, named, hchosen, hnamed, fun d hd => ?_, hentries⟩
  have hnil := List.flatMap_eq_nil_iff.mp (SettingsError.ofFailures_eq_ok_iff.mp hfailures) d hd
  exact supplyFailures_eq_nil_iff.mp hnil

/-- The entries of all definitions carry the names of the registry, in its order. -/
theorem map_mergedEntry_name (supplied : Definition → List Supply) :
    (r.definitions.map fun d => mergedEntry d (supplied d)).map (·.name) = r.names := by
  simp [Registry.names]

end LayeredSettings
