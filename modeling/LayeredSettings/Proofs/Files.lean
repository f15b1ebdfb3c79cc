import LayeredSettings.Files
import LayeredSettings.Proofs.Error
import LayeredSettings.Proofs.Lists
import LayeredSettings.Proofs.Path

/-!
# What file operations leave

Making directories and touching a file put something only where nothing lay. So whatever was there
is still there, and a path that leads somewhere afterwards led there before, or led nowhere since a
directory on the way was missing. Moving a file into place changes that place alone.
-/

namespace LayeredSettings.Files

variable {files later : Files} {place start target : Location} {node : Node} {p : Path}

section Put

/-- What is put at a place lies there. -/
theorem get?_put (hplace : place ≠ []) : (files.put place node).get? place = some node := by
  unfold get? put
  rw [if_neg hplace, List.lookup_append, lookup_filter_ne, if_pos rfl, Option.none_or]
  simp

/-- What is put at a place leaves the other places as they are. -/
theorem get?_put_of_ne {other : Location} (hne : other ≠ place) :
    (files.put place node).get? other = files.get? other := by
  unfold get? put
  rw [List.lookup_append, lookup_filter_ne, if_neg hne, List.lookup_cons,
    beq_false_of_ne hne, List.lookup_nil, Option.or_none]

/-- A place at which no directory lies is not the root. -/
theorem ne_root_of_get? (h : files.get? place ≠ some .directory) : place ≠ [] := by
  rintro rfl
  exact h rfl

end Put

/-- The place that one piece of a path leads to from a directory. -/
def next (place : Location) (piece : List Char) : Except FileFault Location :=
  if piece = [] ∨ piece = ['.'] then .ok place
  else if piece = ['.', '.'] then .ok place.dropLast
  else if (String.ofList piece).utf8ByteSize > maxNameBytes then .error .nameTooLong
  else .ok (place ++ [String.ofList piece])

/-- From a directory a path is followed piece by piece. -/
theorem follow_cons (hstart : files.get? start = some .directory) (piece : List Char)
    (rest : List (List Char)) :
    files.follow start (piece :: rest) = (do files.follow (← next start piece) rest) := by
  conv_lhs => unfold follow
  rw [hstart]
  unfold next
  dsimp only
  split
  · rfl
  · split
    · rfl
    · split
      · rfl
      · rfl

/-- A path with a piece left can be followed from a directory only. -/
theorem isDirectory_of_follow {piece : List Char} {rest : List (List Char)}
    (hok : files.follow start (piece :: rest) = .ok target) :
    files.get? start = some .directory := by
  unfold follow at hok
  split at hok
  · cases hok
  · cases hok
  · assumption

/-- A path whose last piece is a name leads to a place of that name. -/
theorem getLast?_of_follow {pieces : List (List Char)} {last : List Char}
    (hlast : pieces.getLast? = some last) (hname : Path.Names last)
    (hok : files.follow start pieces = .ok target) :
    target.getLast? = some (String.ofList last) := by
  induction pieces generalizing start with
  | nil => cases hlast
  | cons piece rest ih =>
    rw [follow_cons (isDirectory_of_follow hok)] at hok
    cases hnext : next start piece with
    | error fault => simp [hnext, bind, Except.bind] at hok
    | ok between =>
      rw [hnext] at hok
      cases rest with
      | nil =>
        obtain rfl : piece = last := by simpa using hlast
        cases hok
        unfold next at hnext
        rw [if_neg (not_or.mpr ⟨hname.ne_nil, hname.ne_here⟩), if_neg hname.ne_up] at hnext
        split at hnext
        · cases hnext
        · cases hnext
          exact List.getLast?_concat
      | cons second others => exact ih (by simpa using hlast) hok

/-- A path leads where it led after something was put where it ends, if no directory lay there. -/
theorem follow_put {pieces : List (List Char)} (hplace : files.get? place ≠ some .directory)
    (hok : files.follow start pieces = .ok target) :
    (files.put place node).follow start pieces = .ok target := by
  induction pieces generalizing start with
  | nil => exact hok
  | cons piece rest ih =>
    have hstart := isDirectory_of_follow hok
    have hne : start ≠ place := by
      rintro rfl
      exact hplace hstart
    rw [follow_cons hstart] at hok
    rw [follow_cons ((get?_put_of_ne hne).trans hstart)]
    cases hnext : next start piece with
    | error fault => simp [hnext, bind, Except.bind] at hok
    | ok between =>
      rw [hnext] at hok
      exact ih hok

/-- Whatever lay somewhere lies there later. -/
structure Extends (files later : Files) : Prop where
  /-- The working directory is the same. -/
  working : later.working = files.working
  /-- What was there is there. -/
  kept : ∀ place node, files.get? place = some node → later.get? place = some node

namespace Extends

/-- Files that are left as they are. -/
theorem refl (files : Files) : files.Extends files := ⟨rfl, fun _ _ h => h⟩

/-- Files that are changed twice. -/
theorem trans {between : Files} (h : files.Extends between) (hlater : between.Extends later) :
    files.Extends later :=
  ⟨hlater.working.trans h.working, fun place node hnode =>
    hlater.kept place node (h.kept place node hnode)⟩

/-- Something put where nothing lay. -/
theorem put (hnone : files.get? place = none) : files.Extends (files.put place node) := by
  refine ⟨rfl, fun other found hfound => ?_⟩
  have hne : other ≠ place := by
    rintro rfl
    rw [hnone] at hfound
    cases hfound
  rw [get?_put_of_ne hne, hfound]

/-- Where a path leads later it led before, unless a directory was missing. -/
theorem follow (h : files.Extends later) {pieces : List (List Char)}
    (hlater : later.follow start pieces = .ok target) :
    files.follow start pieces = .ok target ∨ files.follow start pieces = .error .notFound := by
  induction pieces generalizing start with
  | nil => exact Or.inl hlater
  | cons piece rest ih =>
    cases hstart : files.get? start with
    | none =>
      unfold Files.follow
      rw [hstart]
      exact Or.inr rfl
    | some node =>
      have hdirectory := isDirectory_of_follow hlater
      rw [h.kept start node hstart] at hdirectory
      cases hdirectory
      rw [follow_cons (h.kept start _ hstart)] at hlater
      rw [follow_cons hstart]
      cases hnext : next start piece with
      | error fault => simp [hnext, bind, Except.bind] at hlater
      | ok between =>
        rw [hnext] at hlater
        exact ih hlater

/-- What a path leads to later it led to before, unless a directory was missing. -/
theorem locate (h : files.Extends later) (hlater : later.locate p = .ok target) :
    files.locate p = .ok target ∨ files.locate p = .error .notFound := by
  obtain ⟨_, hpath, hlater⟩ := bind_eq_ok hlater
  unfold Files.locate
  rw [hpath]
  rw [h.working] at hlater
  exact h.follow hlater

end Extends

/-- A path leads where it led after a file was put where it leads, if no directory lay there. -/
theorem locate_put (hplace : files.get? place ≠ some .directory)
    (hok : files.locate p = .ok target) : (files.put place node).locate p = .ok target := by
  obtain ⟨_, hpath, hok⟩ := bind_eq_ok hok
  unfold locate
  rw [hpath]
  exact follow_put hplace hok

/-- A path whose last piece is a name leads to a place of that name. -/
theorem getLast?_of_locate {last : List Char}
    (hlast : (Path.pieces p.text.toList).getLast? = some last) (hname : Path.Names last)
    (hok : files.locate p = .ok target) : target.getLast? = some (String.ofList last) := by
  obtain ⟨_, -, hok⟩ := bind_eq_ok hok
  exact getLast?_of_follow hlast hname hok

/-- A directory that is made lies where nothing lay. -/
theorem makeDirectory_eq_ok (hok : files.makeDirectory p = .ok later) :
    ∃ place, files.get? place = none ∧ later = files.put place .directory := by
  obtain ⟨_, -, hok⟩ := bind_eq_ok hok
  obtain ⟨place, -, hok⟩ := bind_eq_ok hok
  split at hok
  · cases hok
  · next hnone =>
    cases hok
    exact ⟨place, hnone, rfl⟩

/-- Whatever lay somewhere lies there later, and elsewhere there are new directories at most. -/
structure Furnished (files later : Files) : Prop extends files.Extends later where
  /-- Where nothing lay there is nothing, or a directory. -/
  made : ∀ place, files.get? place = none →
    later.get? place = none ∨ later.get? place = some .directory

namespace Furnished

/-- Files that are left as they are. -/
theorem refl (files : Files) : files.Furnished files := ⟨.refl files, fun _ h => Or.inl h⟩

/-- Files that are changed twice. -/
theorem trans {between : Files} (h : files.Furnished between) (hlater : between.Furnished later) :
    files.Furnished later := by
  refine ⟨h.toExtends.trans hlater.toExtends, fun place hnone => ?_⟩
  rcases h.made place hnone with hbetween | hbetween
  · exact hlater.made place hbetween
  · exact Or.inr (hlater.kept place _ hbetween)

/-- A directory that is made. -/
theorem makeDirectory (hok : files.makeDirectory p = .ok later) : files.Furnished later := by
  obtain ⟨place, hplace, rfl⟩ := makeDirectory_eq_ok hok
  refine ⟨.put hplace, fun other hnone => ?_⟩
  by_cases hother : other = place
  · have hroot : other ≠ [] := ne_root_of_get? (by rw [hnone]; simp)
    rw [← hother]
    exact Or.inr (get?_put hroot)
  · rw [get?_put_of_ne hother]
    exact Or.inl hnone

/-- Directories that are made one in another, as far as that goes. -/
theorem makeDirectories (files : Files) (steps : ℕ) (p : Path) :
    files.Furnished (files.makeDirectories steps p).2 := by
  induction steps generalizing files p with
  | zero => exact refl files
  | succ steps ih =>
    unfold Files.makeDirectories
    split
    · exact refl files
    · split
      · next made hmade => exact makeDirectory hmade
      · split
        · exact refl files
        · next parent hparent =>
          have houter := ih files parent
          split
          · next fault left hleft => rwa [hleft] at houter
          · next left hleft =>
            rw [hleft] at houter
            unfold makeDirectories.makeLast
            split
            · next made hmade => exact houter.trans (makeDirectory hmade)
            · exact houter
      · exact refl files

end Furnished

/-- A file is there after it is touched, an empty one if nothing lay there. -/
theorem touch_eq_ok (hok : files.touch p = .ok later) :
    ∃ place, files.locate p = .ok place ∧
      (later = files ∨ files.get? place = none ∧ later = files.put place (.file (.text ""))) := by
  obtain ⟨place, hplace, hok⟩ := bind_eq_ok hok
  refine ⟨place, hplace, ?_⟩
  split at hok
  · cases hok
  · cases hok
    exact Or.inl rfl
  · next hnone =>
    cases hok
    exact Or.inr ⟨hnone, rfl⟩

/-- A file that is moved into place lies where the path leads, which ends in a name, and nothing
else is changed. -/
theorem moveInto_eq_ok {s : String} (hok : files.moveInto p s = .ok later) :
    ∃ place last, files.locate p = .ok place ∧ files.get? place ≠ some .directory ∧
      (Path.pieces p.text.toList).getLast? = some last ∧ Path.Names last ∧
      later = files.put place (.file (.text s)) := by
  obtain ⟨_, -, hok⟩ := bind_eq_ok hok
  obtain ⟨place, hplace, hok⟩ := bind_eq_ok hok
  obtain ⟨last, hlast⟩ : ∃ last, (Path.pieces p.withoutSlashes.text.toList).getLast? = some last :=
    Option.isSome_iff_exists.mp (by simp [Path.pieces])
  rw [hlast] at hok
  split at hok
  · cases hok
  · cases hok
  · cases hok
  · next hnil hhere hup =>
    split at hok
    · cases hok
    · next hslashes =>
      rw [not_not.mp hslashes] at hplace hlast
      split at hok
      · cases hok
      · next hfile =>
        cases hok
        refine ⟨place, last, hplace, hfile, hlast, ⟨?_, ?_, ?_⟩, rfl⟩
        · rintro rfl
          exact hnil rfl
        · rintro rfl
          exact hhere rfl
        · rintro rfl
          exact hup rfl

/-- Whether a file can be moved into place does not depend on its text. -/
theorem exists_moveInto {s : String} (hok : files.moveInto p s = .ok later) (t : String) :
    ∃ moved, files.moveInto p t = .ok moved := by
  obtain ⟨_, hcheck, hok⟩ := bind_eq_ok hok
  obtain ⟨place, hplace, hok⟩ := bind_eq_ok hok
  refine ⟨files.put place (.file (.text t)), ?_⟩
  unfold moveInto
  rw [hcheck, hplace]
  split at hok
  · cases hok
  · cases hok
  · cases hok
  · next hnil hhere hup =>
    split at hok
    · cases hok
    · next hslashes =>
      split at hok
      · cases hok
      · next hfile =>
        refine (if_neg hslashes).trans ?_
        split
        · next hdirectory => exact absurd hdirectory hfile
        · rfl

end LayeredSettings.Files
