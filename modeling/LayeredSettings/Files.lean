import LayeredSettings.Path.Parts

/-!
# Files

A tree of files and directories with a working directory, and the few operations on it that storing
profiles takes. Paths are followed as an operating system follows them: every step before the last
must be a directory, and a trailing slash asks for one.
-/

namespace LayeredSettings

/-- What a file holds: a text, or bytes that are no text. -/
inductive Content where
  | text (s : String)
  | bytes (data : List UInt8)
  deriving DecidableEq

/-- A file or a directory. -/
inductive Node where
  | file (content : Content)
  | directory
  deriving DecidableEq

/-- The names on the way from the root to a file. -/
abbrev Location := List String

/-- Why an operation on files failed. -/
inductive FileFault where
  | notFound
  | busy
  | alreadyExists
  | notDirectory
  | isDirectory
  | nameTooLong
  | nulCharacter
  | notText
  deriving DecidableEq

/-- The words of the operating system for a fault. -/
def FileFault.message : FileFault → String
  | notFound => "No such file or directory (os error 2)"
  | busy => "Device or resource busy (os error 16)"
  | alreadyExists => "File exists (os error 17)"
  | notDirectory => "Not a directory (os error 20)"
  | isDirectory => "Is a directory (os error 21)"
  | nameTooLong => "File name too long (os error 36)"
  | nulCharacter => "file name contained an unexpected NUL byte"
  | notText => "stream did not contain valid UTF-8"

/-- The files below the root, which is itself a directory, and the working directory. -/
structure Files where
  working : Location
  nodes : List (Location × Node)
  deriving DecidableEq

namespace Files

/-- What lies at a place. -/
def get? (files : Files) (place : Location) : Option Node :=
  if place = [] then some .directory else files.nodes.lookup place

/-- A directory lies at a place. -/
def isDirectory (files : Files) (place : Location) : Bool := files.get? place = some .directory

/-- The files with something put at a place. -/
def put (files : Files) (place : Location) (node : Node) : Files :=
  { files with nodes := files.nodes.filter (·.1 ≠ place) ++ [(place, node)] }

/-- The files without what lies at a place. -/
def delete (files : Files) (place : Location) : Files :=
  { files with nodes := files.nodes.filter (·.1 ≠ place) }

/-- The most bytes that a name may have. -/
def maxNameBytes : Nat := 255

/-- The most bytes that a whole path may have. -/
def maxPathBytes : Nat := 4095

/-- The place that pieces of a path lead to; every piece needs a directory to start from, and the
last may lead to where nothing lies. A name is measured where it is looked up. -/
def follow (files : Files) (place : Location) : List (List Char) → Except FileFault Location
  | [] => .ok place
  | piece :: rest =>
    match files.get? place with
    | none => .error .notFound
    | some (.file _) => .error .notDirectory
    | some .directory =>
      if piece = [] ∨ piece = ['.'] then files.follow place rest
      else if piece = ['.', '.'] then files.follow place.dropLast rest
      else
        let name := String.ofList piece
        if name.utf8ByteSize > maxNameBytes then .error .nameTooLong
        else files.follow (place ++ [name]) rest

/-- Success if a path can lead anywhere, whatever the files are: it is not empty, has no NUL
character and is not too long. -/
def checkPath (p : Path) : Except FileFault Unit :=
  if p.text.toList.contains '\x00' then .error .nulCharacter
  else if p.text = "" then .error .notFound
  else if p.text.utf8ByteSize > maxPathBytes then .error .nameTooLong
  else .ok ()

/-- The place that a path leads to. -/
def locate (files : Files) (p : Path) : Except FileFault Location := do
  checkPath p
  files.follow (if p.isAbsolute then [] else files.working) (Path.pieces p.text.toList)

/-- What lies at the place that a path leads to. -/
def find (files : Files) (p : Path) : Except FileFault Node := do
  let place ← files.locate p
  (files.get? place).elim (.error .notFound) .ok

/-- The text in a file. -/
def readText (files : Files) (p : Path) : Except FileFault String := do
  match ← files.find p with
  | .directory => .error .isDirectory
  | .file (.bytes _) => .error .notText
  | .file (.text s) => .ok s

/-- The files with a new directory. -/
def makeDirectory (files : Files) (p : Path) : Except FileFault Files := do
  checkPath p
  let place ← files.locate p.withoutSlashes
  match files.get? place with
  | some _ => .error .alreadyExists
  | none => .ok (files.put place .directory)

/-- A directory lies where the path leads. -/
def leadsToDirectory (files : Files) (p : Path) : Bool :=
  match files.find p with
  | .ok .directory => true
  | _ => false

/-- A directory made, and those it lies in where they are missing, the outermost first; one that is
there already counts as made. What was made before a failure stays. `steps` bounds the number of
directories. -/
def makeDirectories (files : Files) : (steps : Nat) → Path → Except FileFault Unit × Files
  | 0, _ => (.error .notFound, files)
  | steps + 1, p =>
    if p.text = "" then (.ok (), files)
    else
      match files.makeDirectory p with
      | .ok files => (.ok (), files)
      | .error .notFound =>
        match p.parent? with
        | none => (.error .notFound, files)
        | some parent =>
          match files.makeDirectories steps parent with
          | (.error fault, files) => (.error fault, files)
          | (.ok (), files) => makeLast files p
      | .error fault => (unlessDirectory files p fault, files)
where
  /-- A directory made in one that is there. -/
  makeLast (files : Files) (p : Path) : Except FileFault Unit × Files :=
    match files.makeDirectory p with
    | .ok files => (.ok (), files)
    | .error fault => (unlessDirectory files p fault, files)
  /-- A fault counts only if no directory lies where the path leads. -/
  unlessDirectory (files : Files) (p : Path) (fault : FileFault) : Except FileFault Unit :=
    if files.leadsToDirectory p then .ok () else .error fault

/-- The files with an empty file where the path leads, unless a file is there already. -/
def touch (files : Files) (p : Path) : Except FileFault Files := do
  let place ← files.locate p
  match files.get? place with
  | some .directory => .error .isDirectory
  | some (.file _) => .ok files
  | none => .ok (files.put place (.file (.text "")))

/-- The files with a finished file moved to where the path leads, in place of a file that is there.
A path that ends in a slash or a dot or at the root names no place for a file. -/
def moveInto (files : Files) (p : Path) (s : String) : Except FileFault Files := do
  checkPath p
  let place ← files.locate p.withoutSlashes
  match (Path.pieces p.withoutSlashes.text.toList).getLast? with
  | some [] | some ['.'] | some ['.', '.'] => .error .busy
  | _ =>
    if p.withoutSlashes ≠ p then .error .notDirectory
    else
      match files.get? place with
      | some .directory => .error .isDirectory
      | _ => .ok (files.put place (.file (.text s)))

end Files

end LayeredSettings
