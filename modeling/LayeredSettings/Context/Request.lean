import LayeredSettings.Context.Basic

/-!
# Requests for a context

A context is made from sources: afresh, by resolving, or on top of the context that is current.
-/

namespace LayeredSettings

/-- What contexts are resolved from. -/
structure Sources where
  registry : Registry
  env : Environment
  profiles : Collection

/-- What a new context is to be: on top of the current one or afresh, of which profile, with which
overrides. -/
structure Request where
  inherit : Bool := false
  profile : Option String := none
  overrides : Overrides := .empty

namespace Sources

/-- The context that a request asks for, `parent` being the current one. -/
def build (sources : Sources) (parent : Except SettingsError SettingsContext) (request : Request) :
    Except SettingsError SettingsContext := do
  let r := sources.registry
  if request.inherit then
    let parent ← parent
    match request.profile with
    | some name =>
      let p ← sources.profiles.require name
      let settings ← parent.settings.layerProfile r p
      return ⟨← settings.layer r request.overrides, some name⟩
    | none => return ⟨← parent.settings.layer r request.overrides, parent.profile⟩
  else
    let settings ← resolve r sources.env sources.profiles request.profile request.overrides
    return ⟨settings, request.profile.or sources.profiles.activeName?⟩

/-- What building a context reports. -/
def buildEvents (sources : Sources) (parent : Except SettingsError SettingsContext)
    (request : Request) : List Event :=
  let r := sources.registry
  if request.inherit then
    match parent with
    | .error _ => []
    | .ok parent =>
      match request.profile with
      | some name =>
        match sources.profiles.get? name with
        | none => []
        | some p =>
          p.effectiveEvents r ++
            match parent.settings.layerProfile r p with
            | .ok _ => r.lookupAllEvents request.overrides.keys
            | .error _ => []
      | none => r.lookupAllEvents request.overrides.keys
  else resolveEvents r sources.env sources.profiles request.profile request.overrides

/-- The current context with overrides on top. -/
def temporary (sources : Sources) (parent : Except SettingsError SettingsContext)
    (overrides : Overrides) : Except SettingsError SettingsContext := do
  let parent ← parent
  return ⟨← parent.settings.layer sources.registry overrides, parent.profile⟩

/-- What putting overrides on the current context reports. -/
def temporaryEvents (sources : Sources) (parent : Except SettingsError SettingsContext)
    (overrides : Overrides) : List Event :=
  match parent with
  | .error _ => []
  | .ok _ => sources.registry.lookupAllEvents overrides.keys

end Sources

end LayeredSettings
