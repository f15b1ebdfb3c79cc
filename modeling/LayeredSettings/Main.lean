import LayeredSettings.CommandLine.Program

/-!
# The command line

The program on a real system: the files and variables that a run can depend on are read first, the
run itself is `runProgram`, and then what it changed is written and what it printed is shown.
-/

namespace LayeredSettings.Shell

open LayeredSettings.CommandLine

/-- A place as the system names it. -/
def systemPath (place : Location) : String := "/" ++ "/".intercalate place

/-- What lies at a place; what is there and cannot be read as a file is taken for a directory. -/
def look (place : Location) : IO (Option Node) := do
  try
    let data ← IO.FS.readBinFile (systemPath place)
    match String.fromUTF8? data with
    | some text => return some (.file (.text text))
    | none => return some (.file (.bytes data.toList))
  catch
    | .noFileOrDirectory .. => return none
    | _ => return some .directory

/-- The files with what lies on the way to a place and at the place itself. -/
def lookAlong (files : Files) (place : Location) : IO Files := do
  let mut files := files
  for steps in List.range' 1 place.length do
    let here := place.take steps
    if files.isDirectory here.dropLast then
      if let some node ← look here then
        files := files.put here node
  return files

/-- The place that a path names if every step of it is a directory. -/
def placeOf (working : Location) (p : Path) : Location :=
  let start := if p.isAbsolute then [] else working
  (Path.pieces p.text.toList).foldl (fun place piece =>
    if piece = [] ∨ piece = ['.'] then place
    else if piece = ['.', '.'] then place.dropLast
    else place ++ [String.ofList piece]) start

/-- The names that a file mentions and that may be those of variables. -/
def mentioned (content : Content) : List String :=
  let text := String.ofList (EnvironmentFile.textLines content).flatten
  (text.splitToList fun c => !(Text.isLetterOrNumber c || c = '_' || c = '.')).filter (· ≠ "")

/-- The variables among some names that are set. -/
def variablesAmong (names : List String) : IO Environment := do
  let mut env : Environment := .empty
  for name in names do
    if let some value ← IO.getEnv name then
      env := env.insert name value
  return env

/-- The change that a run made at a place is made on the system. A file is replaced as a whole. -/
def store (place : Location) : Node → IO Unit
  | .directory => IO.FS.createDirAll (systemPath place)
  | .file (.bytes _) => pure ()
  | .file (.text text) => do
    let path := systemPath place
    IO.FS.writeFile (path ++ ".new") text
    IO.FS.rename (path ++ ".new") path

/-- The line that an event is logged as. -/
def logLine (json : Bool) (event : Event) : String :=
  if json then
    "\x7b\"level\":" ++ Json.quoted event.level.label ++ ",\"message\":" ++
      Json.quoted event.message ++ "\x7d"
  else event.level.label ++ " " ++ event.message

end LayeredSettings.Shell

open LayeredSettings LayeredSettings.CommandLine LayeredSettings.Shell

/-- Runs the program and gives its exit code. -/
def main (words : List String) : IO UInt32 := do
  let working := placeOf [] ⟨(← IO.currentDir).toString⟩
  let mut files ← lookAlong ⟨working, []⟩ working
  for depth in List.range (working.length + 1) do
    files ← lookAlong files (working.take depth ++ [EnvironmentFile.fileName])
  let found := EnvironmentFile.find? files working.reverse
  let registry := Registry.builtin none
  let bound := registry.definitions.flatMap registry.variableNames
  let env ← variablesAmong
    (bound ++ ["HOME", profileVariable, levelVariable] ++ (found.map mentioned).getD [])
  if let .ok loaded := EnvironmentFile.load env files then
    let prefixed := loaded.withPrefix builtinPrefix
    if let .ok session := Session.discover (.builtin (homeOf loaded)) prefixed none then
      for path in [session.path, Store.lockPath session.path] do
        files ← lookAlong files (placeOf working path)
  let ending := runProgram env files words
  for (place, node) in ending.files.nodes do
    if files.get? place ≠ some node then
      store place node
  IO.print ending.printed
  for event in ending.journal.written do
    IO.eprintln (logLine ending.logJson event)
  for message in ending.errors do
    IO.eprintln message
  return ending.exitCode.toUInt32
