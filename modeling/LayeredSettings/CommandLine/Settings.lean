import LayeredSettings.CommandLine.Command
import LayeredSettings.CommandLine.Work

/-!
# Commands on settings

Settings are stored in a profile and removed from it, all of one command or none, and the settings
in effect are listed.
-/

namespace LayeredSettings.CommandLine

/-- A setting key and the raw value it is given, parted by the first `=`. -/
def assignment (argument : String) : Except SettingsError (String × Raw) :=
  let cs := argument.toList
  match cs.dropWhile (· ≠ '=') with
  | [] => .error (.parseArgument argument)
  | _ :: value => .ok (String.ofList (cs.takeWhile (· ≠ '=')), .text (String.ofList value))

/-- The lines that tell of stored settings, with a warning for each that the environment overrides.
-/
def setLines (session : Session) (target : String) (sets : List (String × Raw)) : List String :=
  let lines := sets.flatMap fun (key, raw) =>
    ("Set '" ++ key ++ "' to '" ++ raw.toText ++ "'.") ::
      if session.boundInEnvironment key then
        ["'" ++ key ++ "' is also set by an environment variable which will override your " ++
          "config value. Run \x60unset " ++ key ++ "\x60 to clear it."]
      else []
  lines ++ ["Updated profile '" ++ target ++ "'."]

/-- The lines that tell of removed settings, with a warning for each that the environment sets. -/
def unsetLines (session : Session) (target : String) (keys : List String) : List String :=
  let lines := keys.flatMap fun key =>
    ("Unset '" ++ key ++ "'") ::
      if session.boundInEnvironment key then
        ["'" ++ key ++ "' is also set by an environment variable. Use \x60unset " ++ key ++
          "\x60 to clear it."]
      else []
  lines ++ ["Updated profile '" ++ target ++ "'"]

/-- The target profile of a session changed by a batch of settings, and what was stored and removed.
-/
def updateTarget (session : Session) (sets : List (String × Raw)) (unsets : List String)
    (c : Collection) : Except SettingsError ((String × SettingsUpdate) × Collection) := do
  let target := session.targetProfile c
  let (applied, c) ← c.update session.registry target sets unsets
  return ((target, applied), c)

/-- A batch of settings stored and removed in the profiles file. -/
def updateSettings (session : Session) (sets : List (String × Raw)) (unsets : List String) :
    Work (String × SettingsUpdate) :=
  Work.update session (updateTarget session sets unsets) fun c =>
    c.updateEvents session.registry (session.targetProfile c) sets unsets

/-- Settings stored, and told one by one. -/
def setSettings (session : Session) (assignments : List String) : Work Nat := do
  let sets ← Work.ofExcept (assignments.mapM assignment)
  let (target, applied) ← updateSettings session sets []
  Work.print (setLines session target applied.set)
  Work.report [.profileChanged]
  return doneCode

/-- Settings removed, and told one by one. -/
def unsetSettings (session : Session) (keys : List String) : Work Nat := do
  let (target, applied) ← updateSettings session [] keys
  Work.print (unsetLines session target applied.unset)
  Work.report [.profileChanged]
  return doneCode

/-- The line that shows an entry. -/
def entryLine (options : ViewOptions) (e : Entry) : String :=
  let line := e.name ++ "='" ++ e.display options.showSecrets ++ "'"
  if options.hideSources then line else line ++ " " ++ e.source.remark

/-- The lines that show a context: its profile, then its entries; those at their defaults only if
asked for. -/
def contextLines (options : ViewOptions) (context : SettingsContext) : List String :=
  let shown := context.settings.entries.filter fun e => options.showDefaults || e.source ≠ .default
  ("PREFECT_PROFILE='" ++ context.profile.getD "" ++ "'") :: shown.map (entryLine options)

/-- The settings in effect, listed. -/
def viewSettings (options : ViewOptions) : Work Nat := do
  Work.print (contextLines options (← Work.context))
  return doneCode

end LayeredSettings.CommandLine
