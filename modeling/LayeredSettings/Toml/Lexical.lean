import LayeredSettings.Json.Reader

/-!
# Reading the small parts of TOML

Blanks, comments, line ends, quoted texts and keys. Each function reads at the start of the text and
gives what it read and what follows, or nothing if the text is malformed there.
-/

namespace LayeredSettings.Toml

/-- Reads something at the start of a text and gives it with what follows. -/
abbrev Scan (α : Type) := List Char → Option (α × List Char)

/-- A blank within a line. -/
def isBlank (c : Char) : Bool := c == ' ' || c == '\t'

/-- The text after the blanks of the line. -/
def skipBlanks (cs : List Char) : List Char := cs.dropWhile isBlank

/-- The character may stand in a comment: a tab or any character but the controls of ASCII. -/
def isVisible (c : Char) : Bool := c == '\t' || (0x20 ≤ c.toNat && c != '\x7f')

/-- The text after a comment, if one starts here. -/
def skipComment : List Char → List Char
  | '#' :: rest => rest.dropWhile isVisible
  | cs => cs

/-- The text after a line end; the end of the text is one too. -/
def lineEnd? : List Char → Option (List Char)
  | [] => some []
  | '\n' :: rest => some rest
  | '\r' :: '\n' :: rest => some rest
  | _ => none

/-- The text after the rest of a line on which only blanks and a comment may stand. -/
def restOfLine? (cs : List Char) : Option (List Char) := lineEnd? (skipComment (skipBlanks cs))

/-- The text after blanks, line ends and comments. -/
def skipLines (inComment : Bool) : List Char → List Char
  | [] => []
  | '\r' :: '\n' :: rest => skipLines false rest
  | '\n' :: rest => skipLines false rest
  | c :: rest =>
    if inComment then if isVisible c then skipLines true rest else c :: rest
    else if isBlank c then skipLines false rest
    else if c = '#' then skipLines true rest
    else c :: rest

/-- The character that an escape of one letter stands for. -/
def escapeLetter? : Char → Option Char
  | 'b' => some '\x08'
  | 't' => some '\t'
  | 'n' => some '\n'
  | 'f' => some '\x0c'
  | 'r' => some '\r'
  | '"' => some '"'
  | '\\' => some '\\'
  | _ => none

/-- The character of a code point, if it is one. -/
def charOfCode? (code : Nat) : Option Char :=
  if code.isValidChar then some (Char.ofNat code) else none

/-- The character that four hexadecimal digits stand for. -/
def charOfFour? (a b c d : Char) : Option Char := Json.hexFour? a b c d >>= charOfCode?

/-- The character that eight hexadecimal digits stand for. -/
def charOfEight? (a b c d e f g h : Char) : Option Char := do
  let high ← Json.hexFour? a b c d
  let low ← Json.hexFour? e f g h
  charOfCode? (high * 0x10000 + low)

/-- What is read, with a character put in front. -/
def prepend (c : Char) (read : Option (List Char × List Char)) : Option (List Char × List Char) :=
  read.map fun (cs, rest) => (c :: cs, rest)

/-- The rest of a basic string after its opening quote. -/
def basicRest? : Scan (List Char)
  | [] => none
  | '"' :: rest => some ([], rest)
  | '\\' :: 'u' :: a :: b :: c :: d :: rest => do prepend (← charOfFour? a b c d) (basicRest? rest)
  | '\\' :: 'U' :: a :: b :: c :: d :: e :: f :: g :: h :: rest => do
    prepend (← charOfEight? a b c d e f g h) (basicRest? rest)
  | '\\' :: letter :: rest => do prepend (← escapeLetter? letter) (basicRest? rest)
  | c :: rest => if isVisible c && c != '\\' then prepend c (basicRest? rest) else none

/-- The rest of a literal string after its opening quote. -/
def literalRest? : Scan (List Char)
  | [] => none
  | '\'' :: rest => some ([], rest)
  | c :: rest => if isVisible c then prepend c (literalRest? rest) else none

/-- Only blanks stand before the next line end. -/
def endsLine (cs : List Char) : Bool :=
  match skipBlanks cs with
  | '\n' :: _ => true
  | '\r' :: '\n' :: _ => true
  | _ => false

/-- The rest of a basic string over several lines. A backslash at the end of a line makes the text
go on at the next character that is no blank; up to two quotes may stand before the closing three.
-/
def linesBasicRest? (skipping : Bool) : Scan (List Char)
  | [] => none
  | '"' :: '"' :: '"' :: '"' :: '"' :: rest => some (['"', '"'], rest)
  | '"' :: '"' :: '"' :: '"' :: rest => some (['"'], rest)
  | '"' :: '"' :: '"' :: rest => some ([], rest)
  | '\r' :: '\n' :: rest =>
    if skipping then linesBasicRest? true rest else prepend '\n' (linesBasicRest? false rest)
  | '\n' :: rest =>
    if skipping then linesBasicRest? true rest else prepend '\n' (linesBasicRest? false rest)
  | '\\' :: 'u' :: a :: b :: c :: d :: rest => do
    prepend (← charOfFour? a b c d) (linesBasicRest? false rest)
  | '\\' :: 'U' :: a :: b :: c :: d :: e :: f :: g :: h :: rest => do
    prepend (← charOfEight? a b c d e f g h) (linesBasicRest? false rest)
  | '\\' :: letter :: rest =>
    if endsLine (letter :: rest) then linesBasicRest? true (letter :: rest)
    else do prepend (← escapeLetter? letter) (linesBasicRest? false rest)
  | c :: rest =>
    if skipping && isBlank c then linesBasicRest? true rest
    else if isVisible c && c != '\\' then prepend c (linesBasicRest? false rest)
    else none

/-- The rest of a literal string over several lines; up to two quotes may stand before the closing
three. -/
def linesLiteralRest? : Scan (List Char)
  | [] => none
  | '\'' :: '\'' :: '\'' :: '\'' :: '\'' :: rest => some (['\'', '\''], rest)
  | '\'' :: '\'' :: '\'' :: '\'' :: rest => some (['\''], rest)
  | '\'' :: '\'' :: '\'' :: rest => some ([], rest)
  | '\r' :: '\n' :: rest => prepend '\n' (linesLiteralRest? rest)
  | '\n' :: rest => prepend '\n' (linesLiteralRest? rest)
  | c :: rest => if isVisible c then prepend c (linesLiteralRest? rest) else none

/-- The text after a line end that stands here. -/
def skipFirstLineEnd : List Char → List Char
  | '\n' :: rest => rest
  | '\r' :: '\n' :: rest => rest
  | cs => cs

/-- Reads a string of any of the four forms. -/
def string? : Scan (List Char)
  | '"' :: '"' :: '"' :: rest => linesBasicRest? false (skipFirstLineEnd rest)
  | '"' :: rest => basicRest? rest
  | '\'' :: '\'' :: '\'' :: rest => linesLiteralRest? (skipFirstLineEnd rest)
  | '\'' :: rest => literalRest? rest
  | _ => none

/-- The character may stand in a bare key. -/
def isBareChar (c : Char) : Bool := c.isAlphanum || c == '_' || c == '-'

/-- Reads one part of a key: quoted on one line, or bare. -/
def keyPart? : Scan String
  | '"' :: rest => (basicRest? rest).map fun (cs, rest) => (String.ofList cs, rest)
  | '\'' :: rest => (literalRest? rest).map fun (cs, rest) => (String.ofList cs, rest)
  | cs =>
    let part := cs.takeWhile isBareChar
    if part.isEmpty then none else some (String.ofList part, cs.dropWhile isBareChar)

/-- Reads a key: parts with points between them and blanks around each. `parts` bounds their
number. -/
def key? : (parts : Nat) → Scan (List String)
  | 0, _ => none
  | parts + 1, cs => do
    let (part, rest) ← keyPart? (skipBlanks cs)
    match skipBlanks rest with
    | '.' :: rest => do
      let (path, rest) ← key? parts rest
      return (part :: path, rest)
    | rest => return ([part], rest)

/-- A key has at most 79 parts. -/
def maxDepth : Nat := 79

end LayeredSettings.Toml
