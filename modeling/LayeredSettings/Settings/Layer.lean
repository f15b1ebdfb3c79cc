import LayeredSettings.Settings.Resolve

/-!
# Layering on a snapshot

A snapshot can take overrides or a profile's values on top without being resolved again. Entries
that are not replaced keep their values, template defaults included.
-/

namespace LayeredSettings.Settings

/-- An entry with what a layer supplies for it, and what is wrong with that. -/
structure Layered where
  entry : Entry
  failures : List Failure

/-- An entry that takes what is supplied for its setting. -/
def Layered.of (e : Entry) (supplied : Option (Definition × Supply)) : Layered :=
  match supplied with
  | none => ⟨e, []⟩
  | some (d, supply) => ⟨e.accept supply, supplyFailures d [supply]⟩

/-- The snapshot in which each entry takes what is supplied for it, unless something does not fit.
-/
def layerWith (s : Settings) (supply : Entry → Option (Definition × Supply)) :
    Except SettingsError Settings := do
  let layered := s.entries.map fun e => Layered.of e (supply e)
  SettingsError.ofFailures (layered.flatMap (·.failures))
  return ⟨layered.map (·.entry)⟩

/-- What overrides supply for an entry. -/
def overrideSupply (r : Registry) (overrides : NameMap Value) (e : Entry) :
    Option (Definition × Supply) := do
  let d ← r.find? e.name
  let value ← overrides.get? d.name
  return (d, ⟨.override, (d.validate value).map fun _ => value⟩)

/-- What stored values supply for an entry: nothing if it comes from the environment or an override.
-/
def profileSupply (r : Registry) (stored : NameMap Raw) (e : Entry) :
    Option (Definition × Supply) := do
  guard (e.source = .default ∨ e.source = .profile)
  let d ← r.find? e.name
  let raw ← stored.get? e.name
  return (d, ⟨.profile, d.cast r.home raw⟩)

/-- The snapshot with overrides on top. -/
def layer (s : Settings) (r : Registry) (overrides : Overrides) :
    Except SettingsError Settings := do
  s.layerWith (overrideSupply r (← canonicalOverrides r overrides))

/-- The snapshot with the values of a profile below the environment and the overrides. -/
def layerProfile (s : Settings) (r : Registry) (p : Profile) : Except SettingsError Settings :=
  s.layerWith (profileSupply r (p.effective r))

end LayeredSettings.Settings
