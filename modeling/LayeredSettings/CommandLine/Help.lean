import LayeredSettings.CommandLine.Grammar

/-!
# Help

What is shown in place of running a command: the words and flags that may follow a place, the
version, or what is wrong with a command line.
-/

namespace LayeredSettings.CommandLine

/-- The version of the program. -/
def programVersion : String := "2.3.0"

/-- The words that lead to a place. -/
def Place.path (place : Place) : List String :=
  match place with
  | .root => [Place.root.word]
  | .config | .profile => [Place.root.word, place.word]
  | .configSet | .configUnset | .configView => [Place.root.word, Place.config.word, place.word]
  | _ => [Place.root.word, Place.profile.word, place.word]

/-- How an argument is written in a usage line. -/
def Argument.usage (a : Argument) : String :=
  let name := if a.required then "<" ++ a.name ++ ">" else "[" ++ a.name ++ "]"
  if a.repeated then name ++ "..." else name

/-- The line that shows how a place is used. -/
def Place.usage (place : Place) : String :=
  let command := if place.needsCommand then ["<COMMAND>"] else []
  "Usage: " ++ " ".intercalate
    (place.path ++ ["[OPTIONS]"] ++ place.arguments.map Argument.usage ++ command)

/-- How a flag is written in a list of flags. -/
def Flag.usage (flag : Flag) : String :=
  let letter := flag.letter?.elim "    " fun c => String.ofList ['-', c] ++ ", "
  let value := flag.value?.elim "" fun name => " <" ++ name ++ ">"
  letter ++ "--" ++ flag.long ++ value

/-- What may follow a place. -/
def Place.helpText (place : Place) : String :=
  let commands :=
    if place.needsCommand then
      ["", "Commands:"] ++ (place.commands.map (·.1) ++ [helpWord]).map ("  " ++ ·)
    else []
  let flags := ["", "Options:"] ++ place.flags.map fun flag => "  " ++ flag.usage
  "\n".intercalate ([place.usage] ++ commands ++ flags) ++ "\n"

/-- What is wrong with a command line, in words. -/
def UsageFault.message : UsageFault → String
  | help place | nothingGiven place => place.helpText
  | version => "prefect " ++ programVersion ++ "\n"
  | noCommand place => "error: a command is missing after '" ++ " ".intercalate place.path ++ "'\n"
  | unknownCommand word => "error: there is no command '" ++ word ++ "'\n"
  | unknownArgument word => "error: the argument '" ++ word ++ "' is not expected\n"
  | noValue flag => "error: a value is missing for '--" ++ flag.long ++ "'\n"
  | wrongValue flag value => "error: '" ++ value ++ "' is no value for '--" ++ flag.long ++ "'\n"
  | valueGiven flag value =>
    "error: '--" ++ flag.long ++ "' takes no value, such as '" ++ value ++ "'\n"
  | repeated flag => "error: '--" ++ flag.long ++ "' is given more than once\n"
  | fewArguments place => "error: an argument is missing\n\n" ++ place.usage ++ "\n"

end LayeredSettings.CommandLine
