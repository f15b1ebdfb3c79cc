import LayeredSettings.Value.Cast

/-!
# Errors

Every way an operation on settings and profiles can fail, with its message. An error of plumbing
takes the context it occurred in into its message; every other error keeps its kind.
-/

namespace LayeredSettings

/-- A value that does not fit the setting of a name. -/
structure Failure where
  name : String
  reason : Reason
  deriving DecidableEq

/-- The line that tells of a failure. -/
def Failure.message (failure : Failure) : String :=
  "Validation error for setting '" ++ failure.name ++ "': " ++ failure.reason

/-- The lines of several failures, in order. -/
def failuresMessage (failures : List Failure) : String :=
  "\n".intercalate (failures.map Failure.message)

/-- Why a profiles file was not taken: its text was not read, or what it says was refused. -/
inductive StoreReason where
  | unread (text : String)
  | refused (text : String)
  deriving DecidableEq

/-- The words of a reason. -/
def StoreReason.text : StoreReason → String
  | unread text | refused text => text

/-- A failed operation. -/
inductive SettingsError where
  | duplicateName (name : String)
  | invalidName (reason : String)
  | profileNotFound (name : String)
  | activeProfile (name : String)
  | unknownSetting (name : String)
  | validation (failures : List Failure)
  | parseArgument (argument : String)
  | notSet (key profile : String)
  | storeParse (path : Path) (reason : StoreReason)
  | noActiveContext
  | invalidRegistry (reason : String)
  | io (reason : String)
  | serialization (reason : String)
  | logging (reason : String)
  | other (text : String)
  deriving DecidableEq

namespace SettingsError

/-- The message of an error. -/
def message : SettingsError → String
  | duplicateName name => "Profile '" ++ name ++ "' already exists"
  | invalidName reason => "Invalid profile name: " ++ reason
  | profileNotFound name => "Profile '" ++ name ++ "' not found"
  | activeProfile name => "Profile '" ++ name ++ "' is the active profile"
  | unknownSetting name => "Unknown setting name '" ++ name ++ "'"
  | validation failures => failuresMessage failures
  | parseArgument argument => "Failed to parse argument '" ++ argument ++ "'"
  | notSet key profile => "'" ++ key ++ "' is not set in profile '" ++ profile ++ "'"
  | storeParse path reason => "Failed to parse profiles file " ++ path.text ++ ": " ++ reason.text
  | noActiveContext => "No settings context is active"
  | invalidRegistry reason => "Invalid registry: " ++ reason
  | io reason => "I/O error: " ++ reason
  | serialization reason => "Serialization error: " ++ reason
  | logging reason => "Logging error: " ++ reason
  | other text => text

/-- The error as seen from what was being done: input, output and serialization errors and those
without a kind are told with the context in front. -/
def within (context : String) (e : SettingsError) : SettingsError :=
  match e with
  | io _ | serialization _ | other _ => .other (context ++ ": " ++ e.message)
  | e => e

/-- What a user is told who caused the error; nothing for an error that is not of their making. -/
def userMessage? (e : SettingsError) : Option String :=
  match e with
  | parseArgument argument =>
    some ("Failed to parse argument '" ++ argument ++ "'. Use the format 'VAR=VAL'.")
  | validation failures => some (failuresMessage failures ++ "\nInvalid setting value.")
  | activeProfile name =>
    some ("Profile '" ++ name ++
      "' is the active profile. You must switch profiles before it can be deleted.")
  | unknownSetting _ | notSet .. | profileNotFound _ | duplicateName _ | invalidName _
  | storeParse .. => some (e.message ++ ".")
  | _ => none

/-- Success if nothing failed, and all failures otherwise. -/
def ofFailures (failures : List Failure) : Except SettingsError Unit :=
  if failures.isEmpty then .ok () else .error (.validation failures)

end SettingsError

end LayeredSettings
