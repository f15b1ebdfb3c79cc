import LayeredSettings.Context.Thread
import LayeredSettings.Session

/-!
# The work of a command

A command changes files, enters contexts, reports events and prints lines. It ends with an exit code
or with an error. An error that the user caused is printed, and the exit code tells of it.
-/

namespace LayeredSettings.CommandLine

/-- What a command finds, and what it leaves behind: the files, the thread, the lines it printed,
and the error of the user that ended it. -/
structure Desk where
  files : Files
  thread : Thread
  lines : List String := []
  rejection : Option SettingsError := none

/-- What is printed: the lines, and at last what the user is told of the error. -/
def Desk.printed (desk : Desk) : String :=
  String.join ((desk.lines ++ (desk.rejection.bind (·.userMessage?)).toList).map (· ++ "\n"))

/-- Work at a desk, which may fail; what was done before the failure stays done. -/
abbrev Work (α : Type) := ExceptT SettingsError (StateM Desk) α

/-- The exit code of a command that was done. -/
def doneCode : Nat := 0

/-- The exit code of a command that the user got wrong. -/
def rejectedCode : Nat := 1

/-- The exit code of a command that failed otherwise. -/
def failedCode : Nat := 5

namespace Work

/-- Lines are printed. -/
def print (lines : List String) : Work Unit :=
  modify fun desk => { desk with lines := desk.lines ++ lines }

/-- Events are reported. -/
def report (events : List Event) : Work Unit :=
  modify fun desk => { desk with thread := desk.thread.report events }

/-- Work on the files. -/
def onFiles {α : Type} (work : FileWork α) : Work α := fun desk =>
  let (result, files) := work desk.files
  (result, { desk with files })

/-- A result that changes nothing. -/
def ofExcept {α : Type} (result : Except SettingsError α) : Work α := fun desk => (result, desk)

/-- An error that the user caused is told and ends the command with its exit code. -/
def rejecting (work : Work Nat) : Work Nat := fun desk =>
  match work desk with
  | (.error e, desk) =>
    if e.userMessage?.isSome then
      (do report [.commandRejected]; return rejectedCode) { desk with rejection := some e }
    else (.error e, desk)
  | ended => ended

/-- Work under a guard, which is dropped however the work ends. -/
def under {α : Type} (guard : Guard) (work : Work α) : Work α := fun desk =>
  let (result, desk) := work desk
  (result, { desk with thread := desk.thread.leave guard.owner guard })

/-- The collection in the profiles file of a session. -/
def profiles (session : Session) : Work Collection := do
  report (Store.loadEvents (← get).files session.path)
  onFiles (Store.load session.path)

/-- The collection in the profiles file changed; `events` is what the change reports. -/
def update {α : Type} (session : Session)
    (change : Collection → Except SettingsError (α × Collection))
    (events : Collection → List Event) : Work α := do
  report (Store.updateEvents session.path change events (← get).files)
  onFiles (Store.update session.path change)

/-- The guard of the context of a session, entered with a hook. -/
def enter (session : Session) (c : Collection) (hook : Option Hook) :
    Work (Except SettingsError Guard) := fun desk =>
  let (result, thread) :=
    desk.thread.use ⟨session.registry, session.env, c⟩ none { profile := session.profile } hook
  (.ok result, { desk with thread })

/-- The current context. -/
def context : Work SettingsContext := do ofExcept ((← get).thread.current none)

end Work

end LayeredSettings.CommandLine
