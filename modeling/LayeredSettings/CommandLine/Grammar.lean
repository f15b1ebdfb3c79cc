import LayeredSettings.Text.Basic

/-!
# The grammar of the command line

The command line leads through places: from the root to a group of commands, and on to a command.
Every place has flags of its own, and some flags may stand at any place.
-/

namespace LayeredSettings.CommandLine

/-- How a stored profile is printed. -/
inductive OutputFormat where
  | text
  | json
  deriving DecidableEq

/-- The format that a word names. -/
def OutputFormat.ofName? : String → Option OutputFormat
  | "text" => some .text
  | "json" => some .json
  | _ => none

/-- What begins with a dash. -/
inductive Flag where
  | profile
  | logLevel
  | logJson
  | help
  | version
  | showDefaults
  | showSources
  | hideSources
  | showSecrets
  | copied
  | output
  deriving DecidableEq

namespace Flag

/-- The word of a flag, after two dashes. -/
def long : Flag → String
  | profile => "profile"
  | logLevel => "log-level"
  | logJson => "log-json"
  | help => "help"
  | version => "version"
  | showDefaults => "show-defaults"
  | showSources => "show-sources"
  | hideSources => "hide-sources"
  | showSecrets => "show-secrets"
  | copied => "from"
  | output => "output"

/-- The letter of a flag, after one dash. -/
def letter? : Flag → Option Char
  | profile => some 'p'
  | logLevel => some 'l'
  | help => some 'h'
  | version => some 'V'
  | output => some 'o'
  | _ => none

/-- The name of the value that a flag takes, if it takes one. -/
def value? : Flag → Option String
  | profile => some "PROFILE"
  | logLevel => some "LOG_LEVEL"
  | copied => some "FROM"
  | output => some "OUTPUT"
  | _ => none

/-- A flag takes a value. -/
def takesValue (flag : Flag) : Bool := flag.value?.isSome

/-- A value that a flag can have. -/
def allows (flag : Flag) (value : String) : Bool :=
  match flag with
  | output => (OutputFormat.ofName? value).isSome
  | _ => true

/-- The flag that no longer counts once this one is given. -/
def overridden? : Flag → Option Flag
  | showSources => some hideSources
  | hideSources => some showSources
  | _ => none

end Flag

/-- How far the words of a command line have led. -/
inductive Place where
  | root
  | config
  | configSet
  | configUnset
  | configView
  | profile
  | profileList
  | profileCreate
  | profileUse
  | profileDelete
  | profileRename
  | profileInspect
  deriving DecidableEq

/-- A positional argument of a command. -/
structure Argument where
  name : String
  required : Bool := true
  repeated : Bool := false

namespace Place

/-- The words that lead on from a place, and where to. -/
def commands : Place → List (String × Place)
  | root => [("config", config), ("profile", profile)]
  | config => [("set", configSet), ("unset", configUnset), ("view", configView)]
  | profile =>
    [("ls", profileList), ("create", profileCreate), ("use", profileUse), ("delete", profileDelete),
      ("rename", profileRename), ("inspect", profileInspect)]
  | _ => []

/-- A place is not yet a command: a word has to lead on from it. -/
def needsCommand (place : Place) : Bool := !place.commands.isEmpty

/-- The flags that may stand at one place only. -/
def ownFlags : Place → List Flag
  | configView => [.showDefaults, .showSources, .hideSources, .showSecrets]
  | profileCreate => [.copied]
  | profileInspect => [.output, .showSecrets]
  | _ => []

/-- The flags that may stand at a place. -/
def flags (place : Place) : List Flag :=
  place.ownFlags ++ [.profile, .logLevel, .logJson, .help] ++
    if place = root then [.version] else []

/-- The flag of a word at a place. -/
def long? (place : Place) (word : String) : Option Flag := place.flags.find? (·.long = word)

/-- The flag of a letter at a place. -/
def letter? (place : Place) (letter : Char) : Option Flag :=
  place.flags.find? (·.letter? = some letter)

/-- The positional arguments of a command. -/
def arguments : Place → List Argument
  | configSet => [⟨"KEY=VALUE", true, true⟩]
  | configUnset => [⟨"KEY", true, true⟩]
  | profileCreate | profileUse | profileDelete => [⟨"NAME", true, false⟩]
  | profileRename => [⟨"OLD", true, false⟩, ⟨"NEW", true, false⟩]
  | profileInspect => [⟨"NAME", false, false⟩]
  | _ => []

/-- The least number of positional arguments. -/
def leastArguments (place : Place) : Nat := (place.arguments.filter (·.required)).length

/-- One more positional argument may follow some. -/
def takesArgument (place : Place) (before : Nat) : Bool :=
  before < place.arguments.length || place.arguments.any (·.repeated)

/-- The word that leads to a place. -/
def word : Place → String
  | root => "prefect"
  | config => "config"
  | configSet => "set"
  | configUnset => "unset"
  | configView => "view"
  | profile => "profile"
  | profileList => "ls"
  | profileCreate => "create"
  | profileUse => "use"
  | profileDelete => "delete"
  | profileRename => "rename"
  | profileInspect => "inspect"

end Place

/-- The word that asks for help in place of a command. -/
def helpWord : String := "help"

/-- Why the words of a command line name nothing to run: a fault, or something else to show. -/
inductive UsageFault where
  | help (place : Place)
  | version
  | nothingGiven (place : Place)
  | noCommand (place : Place)
  | unknownCommand (word : String)
  | unknownArgument (word : String)
  | noValue (flag : Flag)
  | wrongValue (flag : Flag) (value : String)
  | valueGiven (flag : Flag) (value : String)
  | repeated (flag : Flag)
  | fewArguments (place : Place)
  deriving DecidableEq

/-- The exit code: help and the version are no failures. -/
def UsageFault.exitCode : UsageFault → Nat
  | help _ | version => 0
  | _ => 2

end LayeredSettings.CommandLine
