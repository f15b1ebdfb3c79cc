import LayeredSettings.Profile.Collection
import LayeredSettings.Toml.DateTable
import LayeredSettings.Toml.Reader
import LayeredSettings.Toml.Writer

/-!
# Profiles as a document

The document that a collection is stored as: the name of the active profile, then a table for each
profile. Reading checks the document profile by profile and reports the first thing that is wrong.
-/

namespace LayeredSettings

/-- The document of a collection: the active name, and the values of each profile under its name. -/
structure ProfilesDocument where
  active : Option String
  profiles : List (String × List (String × Raw))
  deriving DecidableEq

namespace ProfilesDocument

/-- The text of a document: the active name, then the profiles, with an empty line before each
header but one at the start. Without profiles the header of their table stands alone. -/
def write (d : ProfilesDocument) : String :=
  let activeBlock := d.active.toList.map fun name => Toml.keyLine "active" (.text name)
  let profileBlocks :=
    match d.profiles with
    | [] => [Toml.header ["profiles"]]
    | profiles => profiles.map fun (name, members) => Toml.tableText ["profiles", name] members
  String.ofList (['\n'].intercalate (activeBlock ++ profileBlocks))

/-- The TOML table that the text of a document stands for. -/
def toTable (d : ProfilesDocument) : Toml.Table :=
  d.active.toList.map (fun name => ("active", .string name)) ++
    [("profiles", .table (d.profiles.map fun (name, members) =>
      (name, .table (members.map fun (key, raw) => (key, raw.toToml)))))]

end ProfilesDocument

/-- Why a text holds no profiles: it cannot be read as a document with an active name and a table of
profiles, or what it says of a profile is refused. -/
inductive StoreFault where
  | unread (fault : Toml.DocumentFault)
  | notTable (profile : String)
  | badName (fault : NameFault)
  | notScalar (key profile : String)
  | duplicate (profile : String)
  | activeMissing (profile : String)
  deriving DecidableEq

/-- Why a text holds no profiles, in words. -/
def StoreFault.message : StoreFault → String
  | unread fault => fault.message
  | notTable profile => "profile '" ++ profile ++ "' must be a table"
  | badName fault => (SettingsError.invalidName fault.message).message
  | notScalar key profile =>
    "setting '" ++ key ++ "' in profile '" ++ profile ++ "' must be a string, number or boolean"
  | duplicate profile => (SettingsError.duplicateName profile).message
  | activeMissing profile => "active profile '" ++ profile ++ "' is not defined"

/-- What goes into the error of a profiles file. -/
def StoreFault.reason (fault : StoreFault) : StoreReason :=
  match fault with
  | unread _ => .unread fault.message
  | _ => .refused fault.message

namespace Toml

/-- The active name that a value gives; it must be a text. -/
def activeName : Value → Except DocumentFault String
  | .string name => .ok name
  | value => .error (.wrongKind value.described "a string")

/-- The table of profiles that a value gives. A date counts as a table of one text. -/
def profileTable : Value → Except DocumentFault Table
  | .table members => withDatesOfMembers members
  | .datetime => .ok [(datetimeKey, .string "")]
  | value => .error (.wrongKind value.described "a map")

/-- The active name and the table of profiles that a document gives, if it gives them; other members
count for nothing. The first member that is wrong is told. -/
def activeAndProfiles (t : Table) : Except DocumentFault (Option String × Table) :=
  t.foldlM (fun (active, profiles) (key, value) => do
    if key = "active" then return (some (← activeName value), profiles)
    else if key = "profiles" then return (active, ← profileTable value)
    else return (active, profiles)) (none, [])

end Toml

namespace Profile

/-- The profile with the values of a table stored, each of which must be a scalar. -/
def storeTable (p : Profile) (members : Toml.Table) : Except StoreFault Profile :=
  members.foldlM (fun p (key, value) =>
    match Raw.ofToml? value with
    | some raw => .ok (p.store key raw)
    | none => .error (.notScalar key p.name.text)) p

/-- The profile that a member of the table of profiles is. -/
def ofToml (name : String) (value : Toml.Value) : Except StoreFault Profile :=
  match value with
  | .table members =>
    match ProfileName.ofText name with
    | .ok name => (named name).storeTable members
    | .error fault => .error (.badName fault)
  | _ => .error (.notTable name)

end Profile

namespace Collection

/-- The document of a collection. -/
def toDocument (c : Collection) : ProfilesDocument where
  active := c.activeName?
  profiles := c.profiles.map fun p => (p.name.text, p.settings.entries)

/-- The collection of some profiles with the pointer at one of them or nowhere, with what is wrong
told in the words of the document. -/
def ofStored (profiles : List Profile) (active : Option String) : Except StoreFault Collection :=
  (ofProfiles profiles active).mapError fun
    | .profileNotFound name => .activeMissing name
    | .duplicateName name => .duplicate name
    | _ => .unread .malformed

/-- The collection that a document holds. -/
def ofTable (t : Toml.Table) : Except StoreFault Collection := do
  let (active, members) ← (Toml.activeAndProfiles t).mapError .unread
  let profiles ← members.mapM fun (name, value) => Profile.ofToml name value
  ofStored profiles active

/-- The text that a collection is stored as. -/
def render (c : Collection) : String := c.toDocument.write

/-- The collection that a text holds. -/
def parse (s : String) : Except StoreFault Collection :=
  (Toml.read? s).elim (.error (.unread .malformed)) ofTable

end Collection

end LayeredSettings
