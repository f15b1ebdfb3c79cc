import LayeredSettings.CommandLine.Command
import LayeredSettings.CommandLine.Work
import LayeredSettings.Json.Scalar

/-!
# Commands on profiles

Profiles are listed, created, made active, deleted, renamed and shown.
-/

namespace LayeredSettings.CommandLine

/-- The lines that list the profiles of a collection; a star stands before the active one. -/
def profileLines (c : Collection) : List String :=
  c.names.map fun name => if c.activeName? = some name then "* " ++ name else name

/-- The profiles, listed. -/
def listProfiles (session : Session) : Work Nat := do
  Work.print (profileLines (← Work.profiles session))
  return doneCode

/-- A change of the collection, with a line that tells of it. -/
def changeProfiles (session : Session) (line : String)
    (change : Collection → Except SettingsError Collection) : Work Nat := do
  Work.update session (fun c => return ((), ← change c)) (fun _ => [])
  Work.print [line]
  Work.report [.profileChanged]
  return doneCode

/-- The collection with a new profile, which stores nothing or what the profile `copied` stores. -/
def withNewProfile (r : Registry) (c : Collection) (name : String) (copied : Option String) :
    Except SettingsError Collection := do
  let p ←
    match copied with
    | some source => (← c.require source).copyAs name
    | none => Profile.new name
  c.addChecked r p

/-- A setting of a profile is shown masked. -/
def masks (session : Session) (reveal : Bool) (key : String) : Bool :=
  !reveal && (session.registry.find? key).any (·.kind = .secret)

/-- The lines that show what a profile stores. -/
def storedLines (session : Session) (reveal : Bool) (name : String) (p : Profile) : List String :=
  if p.settings.entries.isEmpty then ["Profile '" ++ name ++ "' is empty."]
  else
    p.settings.entries.map fun (key, raw) =>
      key ++ "='" ++ (if masks session reveal key then Value.mask else raw.toText) ++ "'"

/-- What a profile stores, as a JSON object. -/
def storedObject (session : Session) (reveal : Bool) (p : Profile) : String :=
  Json.indentedObject <| p.settings.entries.map fun (key, raw) =>
    (key, if masks session reveal key then .string Value.mask else raw.toJson)

/-- What a profile stores, shown. -/
def inspectProfile (session : Session) (name : Option String) (format : OutputFormat)
    (reveal : Bool) : Work Nat := do
  let c ← Work.profiles session
  let name := name.getD (session.targetProfile c)
  let p ← Work.ofExcept (c.require name)
  Work.print <|
    match format with
    | .json => [storedObject session reveal p]
    | .text => storedLines session reveal name p
  return doneCode

end LayeredSettings.CommandLine
