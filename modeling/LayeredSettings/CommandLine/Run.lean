import LayeredSettings.CommandLine.Settings
import LayeredSettings.CommandLine.Profiles

/-!
# Running a command

The profiles are loaded, the context of the session is entered, and the command is done in it. A
command that only needs the profiles file is done even if the settings cannot be resolved, so that a
wrong value can be removed.
-/

namespace LayeredSettings.CommandLine

/-- A command done. -/
def Command.perform (session : Session) : Command → Work Nat
  | set assignments => setSettings session assignments
  | unset keys => unsetSettings session keys
  | view options => viewSettings options
  | list => listProfiles session
  | create name copied =>
    changeProfiles session ("Created profile '" ++ name ++ "'.")
      (withNewProfile session.registry · name copied)
  | activate name =>
    changeProfiles session ("Profile '" ++ name ++ "' now active.") (·.setActive (some name))
  | delete name =>
    changeProfiles session ("Removed profile '" ++ name ++ "'.") fun c => return (← c.remove name).2
  | rename old new =>
    changeProfiles session ("Renamed profile '" ++ old ++ "' to '" ++ new ++ "'.")
      (·.rename old new)
  | inspect name format reveal => inspectProfile session name format reveal

/-- A command run in the context of a session; `hook` goes with the context. -/
def run (session : Session) (hook : Option Hook) (command : Command) : Work Nat :=
  Work.rejecting do
    let c ← Work.profiles session
    match ← Work.enter session c hook with
    | .ok guard => Work.under guard (Work.rejecting (command.perform session))
    | .error e =>
      if command.readsSettings then throw e
      Work.report [.settingsUnresolved e]
      command.perform session

/-- The name of the level that counts where the settings ask for none. -/
def Invocation.baseLevel (i : Invocation) : String := i.logLevel.getD "warn"

/-- The hook by which the level follows the settings, unless the command line or the environment
fixes the level. -/
def Invocation.hook (i : Invocation) (levelVariable : Option String) : Option Hook :=
  if levelFollowsSettings i.logLevel levelVariable then some (.logging i.baseLevel) else none

/-- A command line that has been read, run in an environment. -/
def Invocation.run (i : Invocation) (r : Registry) (env : Environment)
    (levelVariable : Option String) : Work Nat := do
  Work.report (Session.discoverEvents r env)
  let session ← Work.ofExcept (Session.discover r env i.profile)
  CommandLine.run session (i.hook levelVariable) i.command

end LayeredSettings.CommandLine
