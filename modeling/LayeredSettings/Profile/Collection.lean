import LayeredSettings.Profile.Basic

/-!
# Collections of profiles

An ordered list of profiles and a pointer to the active one. An operation either gives the changed
collection or an error, and then nothing has changed.
-/

namespace LayeredSettings

/-- Profiles in order, and the name of the active one. -/
structure Collection where
  profiles : List Profile
  active : Option ProfileName
  deriving DecidableEq

/-- What an update has stored and removed, under the settings' own names. -/
structure SettingsUpdate where
  set : List (String × Raw)
  unset : List String
  deriving DecidableEq

namespace Collection

/-- No profiles. -/
def empty : Collection := ⟨[], none⟩

/-- The name of the profile that exists when no profiles were ever stored. -/
def defaultName : ProfileName := ⟨"default", by decide⟩

/-- One profile of the default name, active, which stores nothing. -/
def withDefault : Collection := ⟨[.named defaultName], some defaultName⟩

/-- The names of the profiles, in order. -/
def names (c : Collection) : List String := c.profiles.map (·.name.text)

/-- The profile of a name. -/
def get? (c : Collection) (name : String) : Option Profile :=
  c.profiles.find? (·.name.text = name)

/-- A profile has the name. -/
def contains (c : Collection) (name : String) : Bool := (c.get? name).isSome

/-- The profile of a name, or the error that there is none. -/
def require (c : Collection) (name : String) : Except SettingsError Profile :=
  (c.get? name).elim (.error (.profileNotFound name)) .ok

/-- The name of the active profile. -/
def activeName? (c : Collection) : Option String := c.active.map (·.text)

/-- The active profile. -/
def activeProfile? (c : Collection) : Option Profile := c.activeName?.bind c.get?

/-- The collection with a profile at the end. -/
def add (c : Collection) (p : Profile) : Except SettingsError Collection :=
  if c.contains p.name.text then .error (.duplicateName p.name.text)
  else .ok { c with profiles := c.profiles ++ [p] }

/-- The collection with a profile at the end whose stored values all fit. -/
def addChecked (c : Collection) (r : Registry) (p : Profile) : Except SettingsError Collection := do
  p.validate r
  c.add p

/-- The profile of a name and the collection without it; the active profile stays. -/
def remove (c : Collection) (name : String) : Except SettingsError (Profile × Collection) := do
  let p ← c.require name
  if c.activeName? = some name then .error (.activeProfile name)
  else return (p, { c with profiles := c.profiles.filter (·.name.text ≠ name) })

/-- The collection with one profile renamed in its place; the pointer to it moves along. -/
def rename (c : Collection) (old new : String) : Except SettingsError Collection := do
  let _ ← c.require old
  let newName ← Profile.nameOf new
  if old = new then return c
  else if c.contains new then .error (.duplicateName new)
  else
    return {
      profiles := c.profiles.map fun p =>
        if p.name.text = old then { p with name := newName } else p
      active := if c.activeName? = some old then some newName else c.active }

/-- The collection with the pointer at a profile, or nowhere. -/
def setActive (c : Collection) : Option String → Except SettingsError Collection
  | none => .ok { c with active := none }
  | some name => return { c with active := some (← c.require name).name }

/-- The collection of some profiles with the pointer at one of them or nowhere. -/
def ofProfiles (profiles : List Profile) (active : Option String) :
    Except SettingsError Collection := do
  (← profiles.foldlM add empty).setActive active

/-- The collection with the settings of one profile replaced. -/
def putSettings (c : Collection) (name : String) (settings : NameMap Raw) : Collection :=
  { c with
    profiles := c.profiles.map fun p => if p.name.text = name then { p with settings } else p }

/-- Settings without the stored value of each given setting in turn; each must be stored. With a
setting goes the key that was given for it. -/
def removeAll (r : Registry) (profile : String) (settings : NameMap Raw) :
    List (Definition × String) → Except SettingsError (NameMap Raw)
  | [] => .ok settings
  | (d, key) :: rest =>
    match Profile.storedKey? r settings d.name with
    | none => .error (.notSet key profile)
    | some stored => removeAll r profile (settings.erase stored) rest

/-- Settings with a raw value stored under the setting's own name, in place of the value stored for
it before. -/
def replace (r : Registry) (settings : NameMap Raw) (d : Definition) (raw : Raw) : NameMap Raw :=
  let cleared :=
    match Profile.storedKey? r settings d.name with
    | none => settings
    | some stored => settings.erase stored
  cleared.insert d.name raw

/-- The values of a batch that do not fit their settings, in order. -/
def batchFailures (r : Registry) (sets : List (Definition × Raw)) : List Failure :=
  sets.filterMap fun (d, raw) =>
    match d.cast r.home raw with
    | .ok _ => none
    | .error reason => some ⟨d.name, reason⟩

/-- One profile with a batch of settings removed and then a batch stored. The profile must exist,
then every key must be known, then every removed setting must be stored, then every value must fit.
-/
def update (c : Collection) (r : Registry) (profile : String) (sets : List (String × Raw))
    (unsets : List String) : Except SettingsError (SettingsUpdate × Collection) := do
  let p ← c.require profile
  let sets ← sets.mapM fun (key, raw) => return (← r.lookup key, raw)
  let unsets ← unsets.mapM fun key => return (← r.lookup key, key)
  let kept ← removeAll r profile p.settings unsets
  SettingsError.ofFailures (batchFailures r sets)
  let settings := sets.foldl (fun settings (d, raw) => replace r settings d raw) kept
  return (⟨sets.map fun (d, raw) => (d.name, raw), unsets.map fun (d, _) => d.name⟩,
    c.putSettings profile settings)

/-- One value stored for a setting of a profile. -/
def set (c : Collection) (r : Registry) (profile key : String) (raw : Raw) :
    Except SettingsError Collection :=
  return (← c.update r profile [(key, raw)] []).2

/-- The stored value of a setting removed from a profile. -/
def unset (c : Collection) (r : Registry) (profile key : String) :
    Except SettingsError Collection :=
  return (← c.update r profile [] [key]).2

/-- What a batch reports: the deprecated names looked up, and that the profile was updated. -/
def updateEvents (c : Collection) (r : Registry) (profile : String) (sets : List (String × Raw))
    (unsets : List String) : List Event :=
  match c.get? profile with
  | none => []
  | some _ =>
    r.lookupAllEvents (sets.map (·.1) ++ unsets) ++
      match c.update r profile sets unsets with
      | .ok _ => [.settingsUpdated]
      | .error _ => []

/-- Equality of collections, with the stored values compared as raw values. -/
def same (c d : Collection) : Bool :=
  c.active == d.active && c.profiles.length == d.profiles.length &&
    (c.profiles.zip d.profiles).all fun (p, q) => p.same q

end Collection

end LayeredSettings
