import LayeredSettings.Store.Basic
import LayeredSettings.Proofs.Files
import LayeredSettings.Proofs.Store.Document

/-!
# Loading and updating the profiles file

A file at a place holds a collection if its text can be read as one; a missing file holds the
default profile. Where the file system does not fail, loading gives what is held, taking the lock
leaves the file as it is, and an update leaves the changed collection if the change succeeds, and
the file as it was if not.
-/

namespace LayeredSettings.Store

variable {files : Files} {p : Path} {place : Location} {c : Collection}

/-- The collection that the file at a place holds. A missing file holds the default profile alone,
and a file that cannot be read as profiles holds none. -/
def held? (files : Files) (place : Location) : Option Collection :=
  match files.get? place with
  | none => some .withDefault
  | some (.file (.text s)) => (Collection.parse s).toOption
  | some _ => none

/-- A path leads to the file at a place if that is there. -/
def Readable (files : Files) (p : Path) (place : Location) : Prop :=
  files.get? place ≠ none → files.locate p = .ok place

/-- The lock beside a path can be taken, the path then leads to a place, and any text can be moved
there. -/
structure Writable (files : Files) (p : Path) (place : Location) : Prop where
  /-- The lock can be taken. -/
  lockable : (takeLock p files).1 = .ok ()
  /-- The path leads to the place under the lock. -/
  leads : (takeLock p files).2.locate p = .ok place
  /-- A file can be moved into place under the lock. -/
  movable : ∀ s, ∃ later, (takeLock p files).2.moveInto p s = .ok later

/-- A file holds the collection that its text can be read as. -/
theorem held?_of_parse {s : String} (hget : files.get? place = some (.file (.text s)))
    (hparse : Collection.parse s = .ok c) : held? files place = some c := by
  unfold held?
  rw [hget]
  exact congrArg Except.toOption hparse

/-- What a file holds depends on the file alone. -/
theorem held?_congr {later : Files} (hget : later.get? place = files.get? place) :
    held? later place = held? files place := by
  unfold held?
  rw [hget]

/-- What a file holds is well-formed. -/
theorem wellFormed_of_held? (hheld : held? files place = some c) : c.WellFormed := by
  unfold held? at hheld
  split at hheld
  · cases hheld
    exact Collection.Initial.withDefault.wellFormed
  · next s hnode =>
    cases hparse : Collection.parse s with
    | error fault => simp [hparse, Except.toOption] at hheld
    | ok found =>
      have hsame : found = c := by simpa [hparse, Except.toOption] using hheld
      exact hsame ▸ Collection.wellFormed_of_parse hparse
  · cases hheld

/-- A path that leads to a place loads what the file there holds. -/
theorem loadFrom_eq_ok_iff (hplace : files.locate p = .ok place) :
    loadFrom files p = .ok c ↔ held? files place = some c := by
  have hfind : files.find p = (files.get? place).elim (.error .notFound) .ok := by
    unfold Files.find
    rw [hplace]
    rfl
  unfold loadFrom held? Files.readText
  rw [hfind]
  cases files.get? place with
  | none =>
    change Except.ok Collection.withDefault = Except.ok c ↔ _
    simp
  | some node =>
    cases node with
    | directory =>
      change Except.error _ = Except.ok c ↔ _
      simp
    | file content =>
      cases content with
      | bytes data =>
        change Except.error _ = Except.ok c ↔ _
        simp
      | text s =>
        change (Collection.parse s).mapError _ = Except.ok c ↔ _
        cases hparse : Collection.parse s <;> simp [hparse, Except.mapError, Except.toOption]

/-- A path that leads nowhere loads the default profile. -/
theorem loadFrom_of_notFound (hnone : files.locate p = .error .notFound) :
    loadFrom files p = .ok .withDefault := by
  unfold loadFrom Files.readText Files.find
  rw [hnone]
  rfl

/-- A file that holds no collection cannot be loaded. -/
theorem loadFrom_of_held?_eq_none (hreads : Readable files p place)
    (hnone : held? files place = none) : ∃ e, loadFrom files p = .error e := by
  have hthere : files.get? place ≠ none := by
    intro hget
    simp [held?, hget] at hnone
  cases hload : loadFrom files p with
  | error e => exact ⟨e, rfl⟩
  | ok c =>
    rw [(loadFrom_eq_ok_iff (hreads hthere)).mp hload] at hnone
    cases hnone

section Lock

/-- The lock file beside a path that ends in a name is called like it, with an ending. -/
theorem getLast?_pieces_lockPath {last : List Char}
    (hlast : (Path.pieces p.text.toList).getLast? = some last) (hname : Path.Names last) :
    (Path.pieces (lockPath p).text.toList).getLast? = some (last ++ ".lock".toList) := by
  have hslash : '/' ∉ (String.ofList last ++ ".lock").toList := by
    rw [String.toList_append, String.toList_ofList, List.mem_append, not_or]
    exact ⟨Path.slash_not_mem_pieces (List.mem_of_getLast? hlast), by decide⟩
  unfold lockPath Path.withFileName
  rw [Path.fileName?_of_names hlast hname, Option.getD_some]
  dsimp only
  rw [Path.getLast?_pieces_join _ hslash, String.toList_append, String.toList_ofList]

/-- The name of a lock file is a name. -/
private theorem names_append_lock (last : List Char) : Path.Names (last ++ ".lock".toList) := by
  have hlength : 2 < (last ++ ".lock".toList).length := by
    rw [List.length_append]
    exact Nat.lt_add_left _ (by decide)
  constructor
  · intro heq
    rw [heq] at hlength
    simp at hlength
  · intro heq
    rw [heq] at hlength
    simp at hlength
  · intro heq
    rw [heq] at hlength
    simp at hlength

/-- Taking the lock makes directories, and an empty lock file if there is none. -/
theorem takeLock_eq_ok {locked : Files} (hok : takeLock p files = (.ok (), locked)) :
    ∃ made lockPlace, files.Furnished made ∧ made.locate (lockPath p) = .ok lockPlace ∧
      (locked = made ∨
        made.get? lockPlace = none ∧ locked = made.put lockPlace (.file (.text ""))) := by
  unfold takeLock at hok
  have hmade := Files.Furnished.makeDirectories files (p.directory.text.length + 1) p.directory
  cases hdirectories : files.makeDirectories (p.directory.text.length + 1) p.directory with
  | mk result made =>
    rw [hdirectories] at hmade
    cases result with
    | error fault =>
      rw [run_bind_of_error (by simp only [FileWork.attempt, hdirectories]; rfl)] at hok
      cases hok
    | ok u =>
      rw [run_bind_of_ok (by simp only [FileWork.attempt, hdirectories]; rfl)] at hok
      cases htouch : made.touch (lockPath p) with
      | error fault =>
        simp only [FileWork.attempt, htouch] at hok
        cases hok
      | ok touched =>
        simp only [FileWork.attempt, htouch] at hok
        cases hok
        obtain ⟨lockPlace, hplace, hleft⟩ := Files.touch_eq_ok htouch
        exact ⟨made, lockPlace, hmade, hplace, hleft⟩

end Lock

namespace Writable

variable (h : Writable files p place)
include h

/-- The lock is taken. -/
private theorem taken : takeLock p files = (.ok (), (takeLock p files).2) :=
  Prod.ext h.lockable rfl

/-- Under the lock no directory lies where the file is, and the path ends in its name. -/
private theorem ends : (takeLock p files).2.get? place ≠ some .directory ∧
    ∃ last, (Path.pieces p.text.toList).getLast? = some last ∧ Path.Names last := by
  obtain ⟨later, hmoved⟩ := h.movable ""
  obtain ⟨target, last, htarget, hfile, hlast, hname, -⟩ := Files.moveInto_eq_ok hmoved
  cases htarget.symm.trans h.leads
  exact ⟨hfile, last, hlast, hname⟩

/-- What taking the lock does. -/
private theorem locked : ∃ made lockPlace, files.Furnished made ∧
    made.locate (lockPath p) = .ok lockPlace ∧ ((takeLock p files).2 = made ∨
      made.get? lockPlace = none ∧
        (takeLock p files).2 = made.put lockPlace (.file (.text ""))) := by
  exact takeLock_eq_ok h.taken

/-- Taking the lock leaves what was there. -/
theorem extends_locked : files.Extends (takeLock p files).2 := by
  obtain ⟨made, lockPlace, hmade, -, hlocked | ⟨hnone, hlocked⟩⟩ := h.locked
  · rw [hlocked]
    exact hmade.toExtends
  · rw [hlocked]
    exact hmade.toExtends.trans (.put hnone)

/-- Taking the lock leaves the file as it is, or missing. -/
theorem get?_locked : (takeLock p files).2.get? place = files.get? place := by
  cases hget : files.get? place with
  | some node => exact h.extends_locked.kept place node hget
  | none =>
    obtain ⟨hfile, last, hlast, hname⟩ := h.ends
    obtain ⟨made, lockPlace, hmade, hlockPlace, hlocked⟩ := h.locked
    have hempty : made.get? place = none := by
      refine (hmade.made place hget).resolve_right fun hdirectory => hfile ?_
      rcases hlocked with hlocked | ⟨hnone, hlocked⟩
      · rw [hlocked, hdirectory]
      · rw [hlocked]
        exact (Files.Extends.put hnone).kept place _ hdirectory
    rcases hlocked with hlocked | ⟨-, hlocked⟩
    · rw [hlocked, hempty]
    · -- The lock file has another name than the file.
      have hne : place ≠ lockPlace := by
        rintro rfl
        have hfileName := Files.getLast?_of_locate hlast hname h.leads
        have hlockName := Files.getLast?_of_locate (getLast?_pieces_lockPath hlast hname)
          (names_append_lock last) hlockPlace
        rw [hfileName] at hlockName
        have hlength := congrArg List.length (String.ofList_injective (Option.some.inj hlockName))
        simp at hlength
      rw [hlocked, Files.get?_put_of_ne hne, hempty]

/-- A file holds the same under the lock. -/
theorem held?_locked : held? (takeLock p files).2 place = held? files place :=
  held?_congr h.get?_locked

/-- What a file holds is loaded from it before the lock is taken. -/
theorem loadFrom_eq (hreads : Readable files p place) (hheld : held? files place = some c) :
    loadFrom files p = .ok c := by
  rcases h.extends_locked.locate h.leads with hplace | hnone
  · exact (loadFrom_eq_ok_iff hplace).mpr hheld
  · have hmissing : files.get? place = none := by
      by_contra hthere
      rw [hreads hthere] at hnone
      cases hnone
    have hdefault : Collection.withDefault = c := by simpa [held?, hmissing] using hheld
    rw [loadFrom_of_notFound hnone, hdefault]

variable {α : Type} {change : Collection → Except SettingsError (α × Collection)}

/-- An update goes on under the lock with what the file holds. -/
private theorem update_eq (hheld : held? files place = some c) :
    update p change files = (do
      match change c with
      | .error e => throw e
      | .ok (result, c) => do
        replace p c
        return result : FileWork α) (takeLock p files).2 := by
  have hload : load p (takeLock p files).2 = (.ok c, (takeLock p files).2) := by
    have hloaded := (loadFrom_eq_ok_iff h.leads).mpr (h.held?_locked.trans hheld)
    change (loadFrom (takeLock p files).2 p, (takeLock p files).2) = _
    rw [hloaded]
  exact (run_bind_of_ok h.taken).trans (run_bind_of_ok hload)

/-- An update whose change fails leaves the file as it is. -/
theorem update_of_error (hheld : held? files place = some c) {e : SettingsError}
    (hchange : change c = .error e) :
    ∃ later, update p change files = (.error e, later) ∧
      later.get? place = files.get? place := by
  refine ⟨(takeLock p files).2, ?_, h.get?_locked⟩
  rw [h.update_eq hheld, hchange]
  rfl

/-- An update whose change succeeds puts the changed collection into the file. -/
theorem update_of_ok (hheld : held? files place = some c) {result : α} {changed : Collection}
    (hchange : change c = .ok (result, changed)) :
    ∃ later, update p change files = (.ok result, later) ∧ later.locate p = .ok place ∧
      later.get? place = some (.file (.text changed.render)) := by
  obtain ⟨later, hmoved⟩ := h.movable changed.render
  obtain ⟨target, last, htarget, hfile, -, -, hlater⟩ := Files.moveInto_eq_ok hmoved
  cases htarget.symm.trans h.leads
  have hreplace : replace p changed (takeLock p files).2 = (.ok (), later) := by
    unfold replace
    refine (run_bind_of_ok (a := (takeLock p files).2) rfl).trans ?_
    rw [hmoved]
    rfl
  refine ⟨later, ?_, ?_, ?_⟩
  · rw [h.update_eq hheld, hchange]
    exact run_bind_of_ok hreplace
  · rw [hlater]
    exact Files.locate_put hfile h.leads
  · rw [hlater]
    exact Files.get?_put (Files.ne_root_of_get? hfile)

end Writable

end LayeredSettings.Store
