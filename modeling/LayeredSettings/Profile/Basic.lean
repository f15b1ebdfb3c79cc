import LayeredSettings.Environment
import LayeredSettings.Profile.Name

/-!
# Profiles

A profile is a named set of raw values under setting keys. Keys are kept as they were given, so one
setting may be stored under its name and under deprecated names at once; the name then counts.
-/

namespace LayeredSettings

/-- A named set of raw values. -/
structure Profile where
  name : ProfileName
  settings : NameMap Raw
  deriving DecidableEq

namespace Profile

/-- Equality of profiles, with the stored values compared as raw values. -/
def same (p q : Profile) : Bool :=
  p.name == q.name && p.settings.size == q.settings.size &&
    (p.settings.entries.zip q.settings.entries).all fun (a, b) => a.1 == b.1 && a.2.same b.2

/-- The profile name that a text is, or the error that it is none. -/
def nameOf (text : String) : Except SettingsError ProfileName :=
  (ProfileName.ofText text).mapError fun fault => .invalidName fault.message

/-- The profile of a name that stores nothing. -/
def named (name : ProfileName) : Profile := ⟨name, .empty⟩

/-- The profile of a text as name that stores nothing. -/
def new (text : String) : Except SettingsError Profile := return named (← nameOf text)

/-- The profile with a raw value stored under a key, known or not. -/
def store (p : Profile) (key : String) (raw : Raw) : Profile :=
  { p with settings := p.settings.insert key raw }

/-- The same settings under another name. -/
def copyAs (p : Profile) (text : String) : Except SettingsError Profile :=
  return { p with name := ← nameOf text }

/-- What is wrong with one stored value: its key is unknown or it does not fit the setting. -/
def entryFailure? (r : Registry) (entry : String × Raw) : Option Failure :=
  match r.find? entry.1 with
  | none => some ⟨entry.1, "unknown setting"⟩
  | some d =>
    match d.cast r.home entry.2 with
    | .ok _ => none
    | .error reason => some ⟨d.name, reason⟩

/-- All that is wrong with the stored values, in the order of their keys. -/
def failures (r : Registry) (p : Profile) : List Failure :=
  p.settings.entries.filterMap (entryFailure? r)

/-- Every stored key is known and every stored value fits its setting. -/
def validate (r : Registry) (p : Profile) : Except SettingsError Unit :=
  SettingsError.ofFailures (p.failures r)

/-- The key under which a profile stores the setting of a name: the name itself, else the first key
that belongs to the setting. -/
def storedKey? (r : Registry) (settings : NameMap Raw) (name : String) : Option String :=
  if settings.contains name then some name
  else settings.keys.find? fun key => (r.find? key).any (·.name = name)

/-- One stored value put under the name of its setting; a value that is there under the setting's
own name stays. -/
def addEffective (r : Registry) (values : NameMap Raw) (entry : String × Raw) : NameMap Raw :=
  match r.find? entry.1 with
  | none => values
  | some d =>
    if d.name = entry.1 ∨ !values.contains d.name then values.insert d.name entry.2 else values

/-- The stored values under the names of their settings: the name wins over deprecated names, the
first deprecated name over later ones, and unknown keys are left out. -/
def effective (r : Registry) (p : Profile) : NameMap Raw :=
  p.settings.entries.foldl (addEffective r) .empty

/-- What reading one stored value reports. -/
def entryEvents (r : Registry) (p : Profile) (key : String) : List Event :=
  match r.find? key with
  | some d => if d.name = key then [] else [.profileAliasUsed p.name.text key d.name]
  | none => [.unknownKeyIgnored p.name.text key]

/-- What reading the stored values reports. -/
def effectiveEvents (r : Registry) (p : Profile) : List Event :=
  p.settings.keys.flatMap (entryEvents r p)

end Profile

end LayeredSettings
