import LayeredSettings.CommandLine.Grammar

/-!
# Reading a command line

The words are read one after another, and each place is read on its own: what stands at it is
checked when its last word has been read, after the places further in. A flag that waits for its
value takes the next word that does not begin with a dash; what it was given is checked when the
next flag or argument is met. After `--` every word is an argument.
-/

namespace LayeredSettings.CommandLine

/-- A word, by how it begins. -/
inductive Word where
  | separator
  | long (name : String) (attached : Option String)
  | letter (first : Char) (attached : Option String)
  | plain
  deriving DecidableEq

/-- The form of a word; a dash alone is plain. A value is attached to a flag by `=`, and to a letter
also without it. -/
def Word.of (word : String) : Word :=
  match word.toList with
  | ['-', '-'] => .separator
  | '-' :: '-' :: name =>
    let rest := name.dropWhile (· ≠ '=')
    .long (String.ofList (name.takeWhile (· ≠ '=')))
      (if rest.isEmpty then none else some (String.ofList rest.tail))
  | '-' :: first :: rest =>
    .letter first <|
      match rest with
      | [] => none
      | '=' :: value => some (String.ofList value)
      | value => some (String.ofList value)
  | _ => .plain

/-- What was read at a place so far. A flag and its value are pending until they are checked; a flag
without a value waits for one. -/
structure Reading where
  place : Place
  given : List (Flag × String) := []
  arguments : List String := []
  pending : Option (Flag × Option String) := none
  deriving DecidableEq

namespace Reading

/-- A flag has been given. -/
def has (r : Reading) (flag : Flag) : Bool := (r.given.lookup flag).isSome

/-- A flag waits for its value. -/
def waits (r : Reading) : Option Flag :=
  match r.pending with
  | some (flag, none) => some flag
  | _ => none

/-- A flag given with a value, which is the empty text for a flag that takes none. No flag is given
twice, unless the one it overrides was given in between. -/
def give (r : Reading) (flag : Flag) (value : String) : Except UsageFault Reading :=
  if r.has flag then .error (.repeated flag)
  else if !flag.allows value then .error (.wrongValue flag value)
  else .ok { r with given := (r.given.filter (some ·.1 ≠ flag.overridden?)) ++ [(flag, value)] }

/-- What is pending is checked. -/
def settle (r : Reading) : Except UsageFault Reading :=
  match r.pending with
  | none => .ok r
  | some (flag, none) => .error (.noValue flag)
  | some (flag, some value) => give { r with pending := none } flag value

/-- A flag met, with the value attached to it. -/
def meet (r : Reading) (flag : Flag) (attached : Option String) : Except UsageFault Reading :=
  if flag.takesValue then do
    let r ← r.settle
    match attached with
    | some value => r.give flag value
    | none => return { r with pending := some (flag, none) }
  else do
    let r ← r.settle
    match flag with
    | .help => throw (.help r.place)
    | .version => throw .version
    | flag => r.give flag ""

/-- A flag met as a word; a flag that takes no value cannot have one attached. -/
def meetLong (r : Reading) (word name : String) (attached : Option String) :
    Except UsageFault Reading :=
  match r.place.long? name, attached with
  | none, _ => .error (.unknownArgument word)
  | some flag, some value =>
    if flag.takesValue then r.meet flag attached else .error (.valueGiven flag value)
  | some flag, none => r.meet flag none

/-- A flag met as a letter. -/
def meetLetter (r : Reading) (word : String) (letter : Char) (attached : Option String) :
    Except UsageFault Reading :=
  (r.place.letter? letter).elim (.error (.unknownArgument word)) (r.meet · attached)

/-- What a word is that stands where no argument can. After `--` even the name of a command is only
an argument. -/
def misplaced (r : Reading) (literal : Bool) (word : String) : UsageFault :=
  let named := word = helpWord ∨ (r.place.commands.lookup word).isSome
  if r.place.needsCommand ∧ ¬ (literal ∧ named) then .unknownCommand word else .unknownArgument word

/-- A positional argument met. -/
def argue (r : Reading) (literal : Bool) (word : String) : Except UsageFault Reading :=
  if r.place.takesArgument r.arguments.length then do
    let r ← r.settle
    return { r with arguments := r.arguments ++ [word] }
  else .error (r.misplaced literal word)

/-- The end of the words at a place from which none leads on. `named` tells that the environment
names a profile, which counts as something given at every place. -/
def close (r : Reading) (named : Bool) : Except UsageFault Reading := do
  let r ← r.settle
  if r.place.needsCommand then
    if r.given.isEmpty && !named then throw (.nothingGiven r.place)
    else throw (.noCommand r.place)
  else if r.arguments.length < r.place.leastArguments then throw (.fewArguments r.place)
  else return r

end Reading

/-- What the words after `help` ask for: help on the place they lead to. -/
def helpOn : Place → List String → UsageFault
  | place, [] => .help place
  | place, word :: rest =>
    match place.commands.lookup word with
    | some inner => helpOn inner rest
    | none =>
      if place.needsCommand ∧ word = helpWord ∧ rest = [] then .help place
      else if place.needsCommand ∧ word = helpWord then .unknownCommand (rest.headD word)
      else .unknownCommand word

/-- What is read from the words at a place and further in, the outermost place first. -/
def readWords (named : Bool) :
    List String → (literal : Bool) → Reading → Except UsageFault (List Reading)
  | [], _, r => return [← r.close named]
  | word :: rest, true, r => do readWords named rest true (← r.argue true word)
  | word :: rest, false, r =>
    match r.waits, r.place.commands.lookup word with
    | none, some inner => do
      let further ← readWords named rest false { place := inner }
      return (← r.settle) :: further
    | waits, _ =>
      if waits.isNone ∧ r.place.needsCommand ∧ word = helpWord then .error (helpOn r.place rest)
      else
        match Word.of word, waits with
        | .separator, _ => readWords named rest true r
        | .long name attached, _ => do readWords named rest false (← r.meetLong word name attached)
        | .letter first attached, _ => do
          readWords named rest false (← r.meetLetter word first attached)
        | .plain, some flag =>
          readWords named rest false { r with pending := some (flag, some word) }
        | .plain, none => do readWords named rest false (← r.argue false word)

end LayeredSettings.CommandLine
