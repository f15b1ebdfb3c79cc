import LayeredSettings.Definition
import LayeredSettings.Journal

/-!
# The registry

The catalog of known settings, in the order in which they were defined. A registry is built once,
and building refuses a catalog in which two settings answer to one key or a template refers to a
setting that is unknown or its own.
-/

namespace LayeredSettings

/-- A catalog of settings: the prefix of their environment variables, the home directory their paths
are expanded with, and the definitions in order. -/
structure Registry where
  envPrefix : String
  home : Home
  definitions : List Definition

/-- What is wrong with a catalog. -/
inductive RegistryFault where
  | repeatedKey (key : String)
  | unknownReference (definition reference : String)
  | cyclicTemplates (names : List String)
  deriving DecidableEq

/-- What is wrong with a catalog, in words. -/
def RegistryFault.message : RegistryFault → String
  | repeatedKey key => "'" ++ key ++ "' is defined more than once"
  | unknownReference definition reference =>
    "template default of '" ++ definition ++ "' references unknown setting '" ++ reference ++ "'"
  | cyclicTemplates names =>
    "template defaults reference each other: " ++ ", ".intercalate names

/-- The error that a fault of the catalog is. -/
def RegistryFault.toError (fault : RegistryFault) : SettingsError :=
  .invalidRegistry fault.message

/-- The first text of a list that was met before, in the list or among those seen already. -/
def firstRepeated? (seen : List String) : List String → Option String
  | [] => none
  | key :: rest => if key ∈ seen then some key else firstRepeated? (key :: seen) rest

namespace Registry

/-- The definition that a key belongs to, by name or alias. -/
def find? (r : Registry) (key : String) : Option Definition :=
  r.definitions.find? (key ∈ ·.keys)

/-- The key belongs to a definition. -/
def contains (r : Registry) (key : String) : Bool := (r.find? key).isSome

/-- The position of the definition that a key belongs to. -/
def position? (r : Registry) (key : String) : Option Nat :=
  r.definitions.findIdx? (key ∈ ·.keys)

/-- The names of all settings, in order. -/
def names (r : Registry) : List String := r.definitions.map (·.name)

/-- The definition that a key belongs to, or the error that it belongs to none. -/
def lookup (r : Registry) (key : String) : Except SettingsError Definition :=
  (r.find? key).elim (.error (.unknownSetting key)) .ok

/-- What looking up a key reports: the use of a deprecated name. -/
def lookupEvents (r : Registry) (key : String) : List Event :=
  match r.find? key with
  | some d => if d.name = key then [] else [.aliasUsed key d.name]
  | none => []

/-- What looking up keys in turn reports, up to the first that belongs to no definition. -/
def lookupAllEvents (r : Registry) (keys : List String) : List Event :=
  (keys.takeWhile r.contains).flatMap r.lookupEvents

/-- The environment variable of a setting. -/
def boundVariable (r : Registry) (d : Definition) : String := variableName r.envPrefix d.name

/-- The environment variables of a setting: that of its name, then those of its deprecated names,
which carry no prefix but their own. -/
def variableNames (r : Registry) (d : Definition) : List String :=
  r.boundVariable d :: d.aliases.map Text.upper

/-- The first reference of a definition's template that names no other definition. -/
def badReference? (r : Registry) (d : Definition) : Option RegistryFault :=
  (d.references.find? fun reference => !(r.find? reference).any (·.name ≠ d.name)).map
    (.unknownReference d.name)

/-- The first fault of a catalog: a key met twice, else a bad reference. -/
def fault? (r : Registry) : Option RegistryFault :=
  match firstRepeated? [] (r.definitions.flatMap Definition.keys) with
  | some key => some (.repeatedKey key)
  | none => r.definitions.findSome? r.badReference?

/-- The registry of some definitions, unless the catalog has a fault. -/
def build (envPrefix : String) (home : Home) (definitions : List Definition) :
    Except SettingsError Registry :=
  let r : Registry := ⟨envPrefix, home, definitions⟩
  r.fault?.elim (.ok r) fun fault => .error fault.toError

end Registry

end LayeredSettings
