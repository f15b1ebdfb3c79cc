import LayeredSettings.Profile.Collection
import LayeredSettings.Settings.Expansion

/-!
# Resolution

Four layers are merged into one snapshot: the default of each setting, the value stored in the
chosen profile, the environment, and typed overrides, each replacing what lies below it. All values
that do not fit are reported together, including those that a higher layer would have replaced.
-/

namespace LayeredSettings

/-- The overrides under the settings' own names. Of several keys of one setting the last in order
counts. -/
def canonicalOverrides (r : Registry) (overrides : Overrides) :
    Except SettingsError (NameMap Value) := do
  let named ← overrides.entries.mapM fun (key, value) => return ((← r.lookup key).name, value)
  return NameMap.ofList named

/-- A value supplied by one layer, or the reason why it does not fit. -/
structure Supply where
  source : Source
  outcome : Except Reason Value

/-- What the layers above the defaults supply for one setting, the lowest layer first. -/
def supplies (r : Registry) (stored : NameMap Raw) (env : Environment) (overrides : NameMap Value)
    (d : Definition) : List Supply :=
  let fromProfile := (stored.get? d.name).map fun raw => ⟨.profile, d.cast r.home raw⟩
  let fromEnvironment :=
    (env.lookup? r d).map fun text => ⟨.environment, d.cast r.home (.text text)⟩
  let fromOverride :=
    (overrides.get? d.name).map fun value => ⟨.override, (d.validate value).map fun _ => value⟩
  fromProfile.toList ++ fromEnvironment.toList ++ fromOverride.toList

/-- The entry with a supplied value in place of its own, if the value fits. -/
def Entry.accept (e : Entry) (supply : Supply) : Entry :=
  match supply.outcome with
  | .ok value => { e with value := some value, source := supply.source }
  | .error _ => e

/-- The entry of a setting before any layer above the defaults; a template is filled later. -/
def Definition.defaultEntry (d : Definition) : Entry :=
  match d.defaultValue with
  | .fixed value => ⟨d.name, some value, .default⟩
  | _ => ⟨d.name, none, .default⟩

/-- The entry of a setting after all layers. -/
def mergedEntry (d : Definition) (supplied : List Supply) : Entry :=
  supplied.foldl Entry.accept d.defaultEntry

/-- What is wrong with the values supplied for a setting. -/
def supplyFailures (d : Definition) (supplied : List Supply) : List Failure :=
  supplied.filterMap fun supply =>
    match supply.outcome with
    | .ok _ => none
    | .error reason => some ⟨d.name, reason⟩

/-- The profile to read: the one asked for by name, else the active one, else none. -/
def chosenProfile (c : Collection) : Option String → Except SettingsError (Option Profile)
  | some name => return some (← c.require name)
  | none => .ok c.activeProfile?

/-- The values stored in a profile under the settings' own names; none without a profile. -/
def storedValues (r : Registry) (p : Option Profile) : NameMap Raw :=
  (p.map (Profile.effective r)).getD .empty

/-- The effective settings. -/
def resolve (r : Registry) (env : Environment) (c : Collection) (profile : Option String)
    (overrides : Overrides) : Except SettingsError Settings := do
  let chosen ← chosenProfile c profile
  let overrides ← canonicalOverrides r overrides
  let supplied := supplies r (storedValues r chosen) env overrides
  SettingsError.ofFailures (r.definitions.flatMap fun d => supplyFailures d (supplied d))
  let entries ← expandTemplates r (r.definitions.map fun d => mergedEntry d (supplied d))
  return ⟨entries⟩

/-- What a resolution reports: deprecated override keys, then what reading the profile reports, then
its success. -/
def resolveEvents (r : Registry) (env : Environment) (c : Collection) (profile : Option String)
    (overrides : Overrides) : List Event :=
  match chosenProfile c profile with
  | .error _ => []
  | .ok chosen =>
    r.lookupAllEvents overrides.keys ++
      if overrides.keys.all r.contains then
        ((chosen.map (Profile.effectiveEvents r)).getD []) ++
          match resolve r env c profile overrides with
          | .ok _ => [.resolved]
          | .error _ => []
      else []

end LayeredSettings
