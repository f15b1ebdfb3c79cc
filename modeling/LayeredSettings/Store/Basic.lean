import LayeredSettings.Files
import LayeredSettings.Store.Document

/-!
# The profiles file

A collection of profiles is loaded from a file and saved to it. Saving makes the directory if it is
missing, leaves an empty lock file beside the file, and replaces the file as a whole. Updating
loads, changes and saves under the lock, and writes nothing if the change fails.
-/

namespace LayeredSettings

/-- Work on files that may fail; the files stay as they were left. -/
abbrev FileWork (α : Type) := ExceptT SettingsError (StateM Files) α

namespace FileWork

/-- An operation on the files, told with its context if it fails. -/
def attempt (context : String) (change : Files → Except FileFault Unit × Files) : FileWork Unit :=
  fun files =>
    let (result, files) := change files
    (result.mapError fun fault => (SettingsError.io fault.message).within context, files)

end FileWork

namespace Store

/-- The lock file beside a profiles file. -/
def lockPath (p : Path) : Path := p.withFileName ((p.fileName?).getD "profiles" ++ ".lock")

/-- The collection in a profiles file; a missing file holds the default profile alone. -/
def loadFrom (files : Files) (p : Path) : Except SettingsError Collection :=
  match files.readText p with
  | .error .notFound => .ok .withDefault
  | .error fault =>
    .error ((SettingsError.io fault.message).within ("Failed to read profiles file " ++ p.text))
  | .ok contents =>
    (Collection.parse contents).mapError fun fault => .storeParse p fault.reason

/-- What loading reports: whether the file was there, and nothing if it could not be read. -/
def loadEvents (files : Files) (p : Path) : List Event :=
  match loadFrom files p with
  | .error _ => []
  | .ok _ =>
    match files.readText p with
    | .ok _ => [.storeLoaded]
    | .error _ => [.storeMissing]

/-- Loads the collection. -/
def load (p : Path) : FileWork Collection := do
  ofExcept (loadFrom (← get) p)
where
  /-- A result as work that changes nothing. -/
  ofExcept (result : Except SettingsError Collection) : FileWork Collection :=
    fun files => (result, files)

/-- Makes the directory of a profiles file and its lock file. -/
def takeLock (p : Path) : FileWork Unit := do
  let directory := p.directory
  FileWork.attempt ("Failed to create directory " ++ directory.text)
    (·.makeDirectories (directory.text.length + 1) directory)
  FileWork.attempt ("Failed to open lock file " ++ (lockPath p).text) fun files =>
    match files.touch (lockPath p) with
    | .ok files => (.ok (), files)
    | .error fault => (.error fault, files)

/-- Replaces the profiles file by the text of a collection. -/
def replace (p : Path) (c : Collection) : FileWork Unit := do
  match (← get).moveInto p c.render with
  | .ok files => set files
  | .error fault =>
    throw (.io ("Failed to move profiles into place at " ++ p.text ++ ": " ++ fault.message))

/-- Saves a collection. -/
def save (p : Path) (c : Collection) : FileWork Unit := do
  takeLock p
  replace p c

/-- Loads the collection, changes it and saves it, under the lock. -/
def update {α : Type} (p : Path) (change : Collection → Except SettingsError (α × Collection)) :
    FileWork α := do
  takeLock p
  let c ← load p
  match change c with
  | .error e => throw e
  | .ok (result, c) => do
    replace p c
    return result

/-- What updating reports: the loading, what the change reports of the collection loaded, and
whether the result was saved. -/
def updateEvents {α : Type} (p : Path)
    (change : Collection → Except SettingsError (α × Collection))
    (changeEvents : Collection → List Event) (files : Files) : List Event :=
  match takeLock p files with
  | (.error _, _) => []
  | (.ok _, locked) =>
    loadEvents locked p ++
      match loadFrom locked p with
      | .error _ => []
      | .ok c =>
        changeEvents c ++
          match (update p change files).1 with
          | .ok _ => [.storeSaved]
          | .error _ => []

end Store

end LayeredSettings
