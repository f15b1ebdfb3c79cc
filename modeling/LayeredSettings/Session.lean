import LayeredSettings.Registry.Catalog
import LayeredSettings.Settings.Resolve
import LayeredSettings.Store.Basic

/-!
# Sessions

What every command runs against: the registry, the environment, the place of the profiles file, and
the profile chosen for the command.
-/

namespace LayeredSettings

/-- The setting that tells where the profiles file is. -/
def profilesPathSetting : String := "PREFECT_PROFILES_PATH"

/-- The settings that the place of the profiles file depends on. -/
def locatingSettings : List String := ["PREFECT_HOME", profilesPathSetting]

/-- What a command runs against. -/
structure Session where
  registry : Registry
  env : Environment
  path : Path
  profile : Option String

namespace Session

/-- The settings by which the profiles file is located, from the defaults and the variables bound to
the locating settings alone; no other variable can stand in the way. -/
def locatingResult (r : Registry) (env : Environment) : Except SettingsError Settings :=
  resolve r (env.only r locatingSettings) .empty none .empty

/-- The session in which the profiles file is where the defaults and the environment tell. -/
def discover (r : Registry) (env : Environment) (profile : Option String) :
    Except SettingsError Session := do
  let settings ← locatingResult r env
  match (settings.value? profilesPathSetting).bind Value.asPath? with
  | none => throw (.other (profilesPathSetting ++ " is not set"))
  | some path => return ⟨r, env, path, profile⟩

/-- What locating the profiles file reports. -/
def discoverEvents (r : Registry) (env : Environment) : List Event :=
  resolveEvents r (env.only r locatingSettings) .empty none .empty ++
    match discover r env none with
    | .ok _ => [.storeLocated]
    | .error _ => []

/-- The profile that changed settings go to: the one chosen, else the active one, else the default
profile. -/
def targetProfile (s : Session) (c : Collection) : String :=
  (s.profile.or c.activeName?).getD Collection.defaultName.text

/-- A setting has a value in the environment also. -/
def boundInEnvironment (s : Session) (key : String) : Bool :=
  (s.registry.find? key).any (s.env.binds s.registry)

end Session

end LayeredSettings
