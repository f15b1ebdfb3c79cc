import LayeredSettings.Proofs.Profile.Editing
import LayeredSettings.Proofs.Store.Access

/-!
# Saving and loading

A collection is stored through a document, and the text of a document is the business of TOML. What
is assumed of TOML is that the text of a document is read as that document, with its members in
order. The rest is proved here: whatever was done to a collection, the names, keys and values that
went into the document make the same collection again, and its pointer finds its profile.
-/

namespace LayeredSettings

namespace ProfilesDocument

variable {d : ProfilesDocument}

/-- The members of the table of profiles. -/
def members (d : ProfilesDocument) : Toml.Table :=
  d.profiles.map fun (name, members) =>
    (name, .table (members.map fun (key, raw) => (key, raw.toToml)))

/-- The text of a document is read as that document. -/
structure RoundTrips (d : ProfilesDocument) : Prop where
  /-- The text stands for the table of the document, with the same members in the same order. -/
  read : Toml.read? d.write = some d.toTable
  /-- No table of values is taken for a date. -/
  dates : Toml.withDatesOfMembers d.members = .ok d.members

/-- The values of a profile hold no date. -/
theorem withDatesOfMembers_toToml (entries : List (String × Raw)) :
    Toml.withDatesOfMembers (entries.map fun (key, raw) => (key, raw.toToml)) =
      .ok (entries.map fun (key, raw) => (key, raw.toToml)) := by
  induction entries with
  | nil => rfl
  | cons entry rest ih =>
    obtain ⟨key, raw⟩ := entry
    simp only [List.map_cons, Toml.withDatesOfMembers, ih]
    cases raw <;> rfl

/-- A profile is not taken for a date, unless its first value is stored under the key of dates. -/
theorem withDates_toToml {entries : List (String × Raw)}
    (hfirst : ∀ entry ∈ entries.head?, entry.1 ≠ Toml.datetimeKey) :
    (Toml.Value.table (entries.map fun (key, raw) => (key, raw.toToml))).withDates =
      .ok (.table (entries.map fun (key, raw) => (key, raw.toToml))) := by
  cases entries with
  | nil => rfl
  | cons entry rest =>
    obtain ⟨key, raw⟩ := entry
    have hkey : key ≠ Toml.datetimeKey := hfirst _ rfl
    simp only [List.map_cons, Toml.Value.withDates, if_neg hkey, withDatesOfMembers_toToml]
    cases raw <;> rfl

/-- A document whose text stands for its table is read as it was written, unless the first value of
a profile is stored under the key of dates. -/
theorem RoundTrips.of_read (hread : Toml.read? d.write = some d.toTable)
    (hfirst : ∀ profile ∈ d.profiles, ∀ entry ∈ profile.2.head?, entry.1 ≠ Toml.datetimeKey) :
    d.RoundTrips := by
  refine ⟨hread, ?_⟩
  unfold members
  generalize d.profiles = profiles at hfirst
  induction profiles with
  | nil => rfl
  | cons profile rest ih =>
    obtain ⟨hprofile, hrest⟩ := List.forall_mem_cons.mp hfirst
    simp only [List.map_cons, Toml.withDatesOfMembers, withDates_toToml hprofile, ih hrest]
    rfl

/-- The active name and the profiles are found in a document that is read as it was written. -/
theorem RoundTrips.readsBack (h : d.RoundTrips) : d.ReadsBack := by
  refine ⟨d.toTable, h.read, ?_⟩
  have hprofiles : Toml.profileTable (.table d.members) = .ok d.members := h.dates
  unfold members at hprofiles
  unfold Toml.activeAndProfiles toTable
  cases d.active with
  | none =>
    simp only [Option.toList_none, List.map_nil, List.nil_append, List.foldlM_cons,
      List.foldlM_nil, hprofiles]
    rfl
  | some name =>
    simp only [Option.toList_some, List.map_cons, List.map_nil, List.singleton_append,
      List.foldlM_cons, List.foldlM_nil, hprofiles]
    rfl

end ProfilesDocument

namespace Store

variable {files later : Files} {p : Path} {c : Collection}

/-- Replacing a file that succeeds moves the text of the collection into place. -/
theorem replace_eq_ok (hreplace : replace p c files = (.ok (), later)) :
    files.moveInto p c.render = .ok later := by
  have hget : (get : FileWork Files) files = (.ok files, files) := rfl
  unfold replace at hreplace
  rw [run_bind_of_ok hget] at hreplace
  cases hmoved : files.moveInto p c.render with
  | error fault =>
    rw [hmoved] at hreplace
    cases hreplace
  | ok moved =>
    rw [hmoved] at hreplace
    cases hreplace
    rfl

/-- Replacing a file that succeeds ends with the text of the collection where the path leads, and
any text could have been moved there. -/
theorem stored_of_replace (hreplace : replace p c files = (.ok (), later)) :
    ∃ place, files.locate p = .ok place ∧ (∀ s, ∃ moved, files.moveInto p s = .ok moved) ∧
      later.locate p = .ok place ∧ later.get? place = some (.file (.text c.render)) := by
  have hmoved := replace_eq_ok hreplace
  obtain ⟨place, last, hplace, hfile, -, -, hlater⟩ := Files.moveInto_eq_ok hmoved
  refine ⟨place, hplace, Files.exists_moveInto hmoved, ?_, ?_⟩
  · rw [hlater]
    exact Files.locate_put hfile hplace
  · rw [hlater]
    exact Files.get?_put (Files.ne_root_of_get? hfile)

/-- Saving that succeeds ends with the text of the collection at the path. -/
theorem save_eq_ok (hsave : save p c files = (.ok (), later)) :
    ∃ place, later.locate p = .ok place ∧
      later.get? place = some (.file (.text c.render)) := by
  obtain ⟨_, locked, -, hreplace⟩ := run_bind_eq_ok hsave
  obtain ⟨place, -, -, hplace, hget⟩ := stored_of_replace hreplace
  exact ⟨place, hplace, hget⟩

/-- An update that succeeds could write, and ends with the text of the changed collection at the
path. -/
theorem update_eq_ok {α : Type} {change : Collection → Except SettingsError (α × Collection)}
    {result : α} (hupdate : update p change files = (.ok result, later)) :
    ∃ c changed place, loadFrom (takeLock p files).2 p = .ok c ∧
      change c = .ok (result, changed) ∧ Writable files p place ∧ later.locate p = .ok place ∧
      later.get? place = some (.file (.text changed.render)) := by
  obtain ⟨_, locked, htake, hupdate⟩ := run_bind_eq_ok hupdate
  obtain ⟨c, loaded, hload, hupdate⟩ := run_bind_eq_ok hupdate
  obtain ⟨hloaded, rfl⟩ := Prod.mk.inj hload
  cases hchange : change c with
  | error e =>
    rw [hchange] at hupdate
    cases hupdate
  | ok made =>
    obtain ⟨told, changed⟩ := made
    rw [hchange] at hupdate
    obtain ⟨_, left, hreplace, hreturn⟩ := run_bind_eq_ok hupdate
    cases hreturn
    obtain ⟨place, hplace, hmovable, hstored⟩ := stored_of_replace hreplace
    have hwritable : Writable files p place := by
      refine ⟨?_, ?_, ?_⟩
      · rw [htake]
      · rw [htake]
        exact hplace
      · rw [htake]
        exact hmovable
    rw [htake]
    exact ⟨c, changed, place, hloaded, hchange, hwritable, hstored⟩

/-- What is loaded is well-formed. -/
theorem wellFormed_of_loadFrom (hload : loadFrom files p = .ok c) : c.WellFormed := by
  unfold loadFrom at hload
  split at hload
  · cases hload
    exact Collection.Initial.withDefault.wellFormed
  · cases hload
  · next contents _ =>
    cases hparse : Collection.parse contents with
    | error fault =>
      rw [hparse] at hload
      cases hload
    | ok found =>
      rw [hparse] at hload
      cases hload
      exact Collection.wellFormed_of_parse hparse

/-- What was saved is loaded, if the text of the collection is read as the collection. -/
theorem loadFrom_of_save (hsave : save p c files = (.ok (), later))
    (hparse : Collection.parse c.render = .ok c) : loadFrom later p = .ok c := by
  obtain ⟨place, hplace, hget⟩ := save_eq_ok hsave
  exact (loadFrom_eq_ok_iff hplace).mpr (held?_of_parse hget hparse)

end Store

namespace Collection

/-- Saving then loading is the identity. However a collection comes into being and whatever
operations follow, its text is read as the collection itself, and a file that it was saved to holds
it, if TOML reads a document as it was written. -/
theorem parse_render_after {start : Collection} (hstart : start.Initial)
    (history : List Operation) (htoml : (start.after history).toDocument.RoundTrips) :
    parse (start.after history).render = .ok (start.after history) ∧
      ∀ files later p, Store.save p (start.after history) files = (.ok (), later) →
        Store.loadFrom later p = .ok (start.after history) := by
  have hparse := (hstart.wellFormed.after history).parse_render htoml.readsBack
  exact ⟨hparse, fun files later p hsave => Store.loadFrom_of_save hsave hparse⟩

/-- The names, keys and values of a table with a profile of two values and an empty one. -/
private def contentOf : Option Toml.Table → Option (List String × Binary64)
  | some [(l, .table [(n, .table [(a, .float x), (b, .string s)]), (m, .table [])])] =>
    some ([l, n, a, b, s, m], x)
  | _ => none

/-- Quotes in a name, a blank in a key, a value that is no number, a text over two lines and a
profile without values are all read back, and the pointer is still nowhere. -/
theorem parse_render_after_quoting :
    let odd : Profile := ⟨⟨"my \"profile\"", by decide⟩,
      .ofList [("a key", .float .nan), ("text", .text "\"one\"\n'two'")]⟩
    let c := empty.after [.add odd, .add (.named ⟨"none", by decide⟩)]
    c = ⟨[odd, .named ⟨"none", by decide⟩], none⟩ ∧ c.toDocument.RoundTrips ∧
      parse c.render = .ok c := by
  intro odd c
  have hc : c = ⟨[odd, .named ⟨"none", by decide⟩], none⟩ := by decide +kernel
  have hround : c.toDocument.RoundTrips := by
    have hcontent : contentOf (Toml.read? c.render) =
        some (["profiles", "my \"profile\"", "a key", "text", "\"one\"\n'two'", "none"], .nan) := by
      decide +kernel
    unfold contentOf at hcontent
    split at hcontent
    · next hread =>
      cases hcontent
      exact .of_read hread (by decide +kernel)
    · cases hcontent
  exact ⟨hc, hround, (parse_render_after .empty _ hround).1⟩

end Collection

end LayeredSettings
