import LayeredSettings.CommandLine.Reading

/-!
# Commands

What a command line asks for: a command, and the flags that go with any command.
-/

namespace LayeredSettings.CommandLine

/-- How the resolved settings are printed. -/
structure ViewOptions where
  showDefaults : Bool
  hideSources : Bool
  showSecrets : Bool
  deriving DecidableEq

/-- A command. -/
inductive Command where
  | set (assignments : List String)
  | unset (keys : List String)
  | view (options : ViewOptions)
  | list
  | create (name : String) (copied : Option String)
  | activate (name : String)
  | delete (name : String)
  | rename (old new : String)
  | inspect (name : Option String) (format : OutputFormat) (showSecrets : Bool)
  deriving DecidableEq

/-- The command reads the resolved settings; the others only need the profiles file. -/
def Command.readsSettings : Command → Bool
  | view _ => true
  | _ => false

/-- The command that the words at a place make. -/
def Reading.command? (r : Reading) : Option Command :=
  match r.place, r.arguments with
  | .configSet, assignments => some (.set assignments)
  | .configUnset, keys => some (.unset keys)
  | .configView, _ => some (.view ⟨r.has .showDefaults, r.has .hideSources, r.has .showSecrets⟩)
  | .profileList, _ => some .list
  | .profileCreate, [name] => some (.create name (r.given.lookup .copied))
  | .profileUse, [name] => some (.activate name)
  | .profileDelete, [name] => some (.delete name)
  | .profileRename, [old, new] => some (.rename old new)
  | .profileInspect, names =>
    let format := ((r.given.lookup .output).bind OutputFormat.ofName?).getD .text
    some (.inspect names.head? format (r.has .showSecrets))
  | _, _ => none

/-- A command line that has been read. -/
structure Invocation where
  profile : Option String
  logLevel : Option String
  logJson : Bool
  command : Command
  deriving DecidableEq

/-- The value of a flag that may stand at any place: that of the innermost place where it stands. -/
def innermost? (flag : Flag) (readings : List Reading) : Option String :=
  readings.reverse.findSome? (·.given.lookup flag)

/-- The words of a command line, read; `profile` is the profile that the environment names, which
counts where the words name none. -/
def Invocation.ofWords (profile : Option String) (words : List String) :
    Except UsageFault Invocation := do
  let readings ← readWords profile.isSome words false { place := .root }
  match (readings.getLast?).bind Reading.command? with
  | none => throw (.noCommand .root)
  | some command =>
    return {
      profile := (innermost? .profile readings).or profile
      logLevel := innermost? .logLevel readings
      logJson := (innermost? .logJson readings).isSome
      command }

end LayeredSettings.CommandLine
