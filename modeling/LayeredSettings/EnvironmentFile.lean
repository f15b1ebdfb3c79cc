import LayeredSettings.Environment
import LayeredSettings.Files
import LayeredSettings.Text.Basic

/-!
# Environment files

A file of `NAME=value` lines that sets variables the environment does not set. A value may be
quoted, may run over several lines inside quotes, and may refer to other variables by `$NAME` and
`${NAME}`. Reading stops at the first line that is malformed; what stands before it counts. A NUL
character in the value of a variable to be set is fatal.
-/

namespace LayeredSettings.EnvironmentFile

/-! ## Lines -/

/-- What an entry is inside of when a character has been read. -/
inductive Span where
  | plain
  | blank
  | escape
  | weak
  | weakEscape
  | strong
  | strongEscape
  deriving DecidableEq

/-- What the next character leads to; nothing if a comment starts with it. A comment starts at a `#`
after a single blank. -/
def Span.next (span : Span) (c : Char) : Option Span :=
  let unquoted :=
    match c with
    | '\\' => escape
    | '"' => weak
    | '\'' => strong
    | _ => plain
  match span with
  | plain => some (if Text.isBlank c ∧ c ≠ '\n' ∧ c ≠ '\r' then blank else unquoted)
  | blank => if c = '#' then none else some unquoted
  | escape => some plain
  | weak => some (if c = '\\' then weakEscape else if c = '"' then plain else weak)
  | weakEscape => some weak
  | strong => some (if c = '\\' then strongEscape else if c = '\'' then plain else strong)
  | strongEscape => some strong

/-- A line read from inside of a span: the characters before a comment, and where the line ends;
nothing for its end if a comment starts. -/
def Span.readLine (span : Span) : List Char → List Char × Option Span
  | [] => ([], some span)
  | c :: rest =>
    match span.next c with
    | none => ([], none)
    | some after =>
      let (kept, ending) := after.readLine rest
      (c :: kept, ending)

/-- The lines of a text, each with the line feed at its end. -/
def linesOf : List Char → List (List Char)
  | [] => []
  | c :: rest =>
    if c = '\n' then [c] :: linesOf rest
    else
      match linesOf rest with
      | [] => [[c]]
      | line :: others => (c :: line) :: others

/-- A line without the line end. -/
def withoutLineEnd (line : List Char) : List Char :=
  match line.reverse with
  | '\n' :: '\r' :: before => before.reverse
  | '\n' :: before => before.reverse
  | _ => line

/-- The entries of a file: its lines, with those joined that end inside quotes, after a backslash or
after a single blank. Lines that start with `#` are left out. `held` is what is read of an entry so
far, which ends inside of `span`; an entry that does not end is none. -/
def entriesOf (held : List Char) (span : Span) : List (List Char) → List (List Char)
  | [] => []
  | line :: rest =>
    if ((held ++ line).dropWhile Text.isBlank).head? = some '#' then entriesOf [] .plain rest
    else
      match span.readLine line with
      | (kept, none) => (held ++ kept) :: entriesOf [] .plain rest
      | (_, some .plain) => withoutLineEnd (held ++ line) :: entriesOf [] .plain rest
      | (_, some span) => entriesOf (held ++ line) span rest

/-! ## Values -/

/-- Where the reading of a value stands; `quoted` tells that double quotes are open. -/
inductive ValueSpan where
  | open (quoted : Bool)
  | strong
  | escape (quoted : Bool)
  | name (quoted : Bool) (name : List Char)
  | braced (quoted : Bool) (name : List Char)
  | ended

/-- What the next character leads to and what it adds to the value; nothing if it must not stand
there. `lookup` tells the values of variables. The name of a variable without braces holds letters
and digits; the character after it is taken as it is. -/
def ValueSpan.next (lookup : List Char → List Char) (span : ValueSpan) (c : Char) :
    Option (ValueSpan × List Char) :=
  match span with
  | ended => if c = ' ' ∨ c = '\t' then some (ended, []) else none
  | escape quoted =>
    if c = 'n' then some (.open quoted, ['\n'])
    else if c ∈ ['\\', '\'', '"', '$', ' '] then some (.open quoted, [c])
    else none
  | strong => some (if c = '\'' then (.open false, []) else (strong, [c]))
  | name quoted read =>
    if Text.isLetterOrNumber c then some (name quoted (read ++ [c]), [])
    else if c = '{' ∧ read = [] then some (braced quoted [], [])
    else if c = '$' then some (name quoted [], lookup read)
    else some (.open quoted, lookup read ++ [c])
  | braced quoted read =>
    if c = '}' then some (.open quoted, lookup read)
    else some (braced quoted (read ++ [c]), [])
  | .open true =>
    match c with
    | '$' => some (name true [], [])
    | '"' => some (.open false, [])
    | '\\' => some (escape true, [])
    | c => some (.open true, [c])
  | .open false =>
    match c with
    | '$' => some (name false [], [])
    | '\'' => some (strong, [])
    | '"' => some (.open true, [])
    | '\\' => some (escape false, [])
    | ' ' | '\t' => some (ended, [])
    | c => some (.open false, [c])

/-- What the end of the entry adds to the value; nothing if quotes or braces are open. -/
def ValueSpan.finish (lookup : List Char → List Char) : ValueSpan → Option (List Char)
  | .open false | escape false | ended => some []
  | name false read => some (lookup read)
  | _ => none

/-- The value that is written; nothing if it is malformed. After the blank that ends a value a
comment may stand. -/
def readValue (lookup : List Char → List Char) (span : ValueSpan) :
    List Char → Option (List Char)
  | [] => span.finish lookup
  | c :: rest =>
    match span, c with
    | .ended, '#' => some []
    | span, c => do
      let (after, added) ← span.next lookup c
      return added ++ (← readValue lookup after rest)

/-! ## Entries -/

/-- What an entry says. -/
inductive Statement where
  | nothing
  | binding (name : String) (value : String)
  | malformed
  deriving DecidableEq

/-- The name at the start of some characters and what follows it after blanks; nothing if no name
stands there. -/
def readName? (cs : List Char) : Option (String × List Char) :=
  let isNameChar c := c.isAlphanum || c == '_' || c == '.'
  match cs with
  | [] => none
  | c :: _ =>
    if c.isAlpha || c == '_' then
      let rest := cs.dropWhile isNameChar
      some (String.ofList (cs.takeWhile isNameChar), rest.dropWhile Text.isBlank)
    else none

/-- The name of an entry and the characters after its equals sign. The word `export` may stand
before the name; it is a name itself if an equals sign follows. -/
def readBinding? (cs : List Char) : Option (String × List Char) := do
  match ← readName? cs with
  | (name, '=' :: rest) => some (name, rest.dropWhile Text.isBlank)
  | (name, rest) =>
    if name = "export" then
      match ← readName? rest with
      | (name, '=' :: rest) => some (name, rest.dropWhile Text.isBlank)
      | _ => none
    else none

/-- What an entry says; `lookup` tells the values of variables. -/
def readEntry (lookup : List Char → List Char) (entry : List Char) : Statement :=
  let cs := Text.trimBlanks entry
  if cs = [] ∨ cs.head? = some '#' then .nothing
  else
    match readBinding? cs with
    | none => .malformed
    | some (name, written) =>
      if written = [] ∨ written.head? = some '#' then .binding name ""
      else
        match readValue lookup (.open false) written with
        | none => .malformed
        | some value => .binding name (String.ofList value)

/-- What stands after a name and an equals sign in an environment written as lines `NAME=value`. The
name may itself have equals signs: all but the first are then those of the value. -/
def written? (env : Environment) (name : List Char) : Option (List Char) := do
  let value := (← env.get? (String.ofList (name.takeWhile (· ≠ '=')))).toList
  match name.dropWhile (· ≠ '=') with
  | [] => return value
  | _ :: start =>
    guard ((start ++ ['=']).isPrefixOf value)
    return value.drop (start.length + 1)

/-- The value of a variable as entries refer to it: that of the environment, else what an earlier
entry of the file says, else the empty text. -/
def valueOf (env earlier : Environment) (name : List Char) : List Char :=
  ((written? env name).or ((earlier.get? (String.ofList name)).map (·.toList))).getD []

/-- A variable cannot be set to a value, since that has a NUL character. -/
structure NulFault where
  name : String
  deriving DecidableEq

/-- What is wrong with the value of a variable, in words. -/
def NulFault.message (fault : NulFault) : String :=
  "the value of '" ++ fault.name ++ "' in the environment file has a NUL character"

/-- The environment with a variable set, unless it is set already. -/
def supply (env : Environment) (name value : String) : Except NulFault Environment :=
  if env.contains name then .ok env
  else if value.contains '\x00' then .error ⟨name⟩
  else .ok (env.insert name value)

/-- The environment after the entries of a file; a variable that is set already stays as it is. -/
def bind (env earlier : Environment) : List (List Char) → Except NulFault Environment
  | [] => .ok env
  | entry :: rest =>
    match readEntry (valueOf env earlier) entry with
    | .nothing => bind env earlier rest
    | .malformed => .ok env
    | .binding name value => do
      bind (← supply env name value) (earlier.insert name value) rest

/-! ## Files -/

/-- The lines of a file that are text, up to the first that is not. -/
def textLines : Content → List (List Char)
  | .text s => linesOf s.toList
  | .bytes data =>
    let feed : UInt8 := 10
    let pieces := data.splitOn feed
    let lines := pieces.dropLast.map (· ++ [feed]) ++ [pieces.getLast?.getD []].filter (· ≠ [])
    let texts := lines.map fun line => String.fromUTF8? (ByteArray.mk line.toArray)
    (texts.takeWhile Option.isSome).map fun text => (text.getD "").toList

/-- Lines without a byte-order mark at their start. -/
def withoutMark : List (List Char) → List (List Char)
  | ('\uFEFF' :: line) :: rest => if line = [] then rest else line :: rest
  | lines => lines

/-- The environment after a file. -/
def apply (env : Environment) (content : Content) : Except NulFault Environment :=
  bind env .empty (entriesOf [] .plain (withoutMark (textLines content)))

/-- The name of an environment file. -/
def fileName : String := ".env"

/-- The environment file of a directory: that in the directory itself, else that of the directory it
lies in. The names of the directory are given innermost first. -/
def find? (files : Files) : List String → Option Content
  | [] =>
    match files.get? [fileName] with
    | some (.file content) => some content
    | _ => none
  | name :: outer =>
    match files.get? ((name :: outer).reverse ++ [fileName]) with
    | some (.file content) => some content
    | _ => find? files outer

/-- The environment after the environment file of the working directory, if there is one. -/
def load (env : Environment) (files : Files) : Except NulFault Environment :=
  (find? files files.working.reverse).elim (.ok env) (apply env)

end LayeredSettings.EnvironmentFile
