import LayeredSettings.Store.Document
import LayeredSettings.Proofs.NameMap
import LayeredSettings.Proofs.Profile.Operations

/-!
# Reading stored profiles back

Reading a document makes its collection anew, profile by profile and value by value. If the text of
a document is read as the document that it was written from, this gives the collection that was
stored: no value, no order and no pointer is lost. And whatever text is read, the collection that
comes out is well-formed.
-/

namespace LayeredSettings

/-- The text of a document is read as that document: the active name, and the table of each profile.
-/
def ProfilesDocument.ReadsBack (d : ProfilesDocument) : Prop :=
  ∃ t, Toml.read? d.write = some t ∧
    Toml.activeAndProfiles t = .ok (d.active, d.profiles.map fun (name, members) =>
      (name, .table (members.map fun (key, raw) => (key, raw.toToml))))

namespace Profile

/-- The scalars of a table are stored one after another. -/
private theorem storeTable_toToml (p : Profile) (l : List (String × Raw)) :
    p.storeTable (l.map fun (key, raw) => (key, raw.toToml)) =
      .ok { p with settings := l.foldl (fun m (key, raw) => m.insert key raw) p.settings } := by
  induction l generalizing p with
  | nil => rfl
  | cons head rest ih =>
    obtain ⟨key, raw⟩ := head
    unfold storeTable at ih ⊢
    rw [List.map_cons, List.foldlM_cons]
    dsimp only
    rw [Raw.ofToml?_toToml]
    exact ih (p.store key raw)

/-- The member of the table of profiles that a profile is stored as. -/
def toMember (p : Profile) : String × Toml.Value :=
  (p.name.text, .table (p.settings.entries.map fun (key, raw) => (key, raw.toToml)))

/-- A profile is read from the member that it is stored as. -/
theorem ofToml_toMember (p : Profile) : ofToml p.toMember.1 p.toMember.2 = .ok p := by
  unfold ofToml toMember
  rw [ProfileName.ofText_text]
  dsimp only
  rw [storeTable_toToml]
  exact congrArg (fun settings => Except.ok { p with settings }) p.settings.ofList_entries

end Profile

namespace Collection

variable {c : Collection}

/-- Profiles of distinct names are added one after another. -/
private theorem foldlM_add (before : List Profile) {after : List Profile}
    (hnodup : ((before ++ after).map (·.name.text)).Nodup) :
    after.foldlM add ⟨before, none⟩ = .ok ⟨before ++ after, none⟩ := by
  induction after generalizing before with
  | nil => simp [pure, Except.pure]
  | cons p rest ih =>
    have hnew : ¬ (Collection.mk before none).contains p.name.text := by
      rw [contains_iff, mem_names_iff]
      rintro ⟨q, hq, hname⟩
      rw [List.map_append, List.map_cons] at hnodup
      exact (List.nodup_append.mp hnodup).2.2 _ (List.mem_map_of_mem hq) _ List.mem_cons_self hname
    have hadd : add ⟨before, none⟩ p = .ok ⟨before ++ [p], none⟩ := if_neg hnew
    rw [List.foldlM_cons, hadd]
    have hrest := ih (before ++ [p]) (by simpa using hnodup)
    rw [List.append_assoc, List.singleton_append] at hrest
    exact hrest

/-- Where profiles have distinct names, only the pointer is left to be set. -/
theorem ofProfiles_of_nodup {profiles : List Profile} (active : Option String)
    (hnodup : (profiles.map (·.name.text)).Nodup) :
    ofProfiles profiles active = setActive ⟨profiles, none⟩ active := by
  have hadded : profiles.foldlM add empty = .ok ⟨profiles, none⟩ := foldlM_add [] hnodup
  unfold ofProfiles
  rw [hadded]
  rfl

/-- The pointer can be set at each profile that is there. -/
theorem exists_setActive {name : String} (hname : name ∈ c.names) :
    ∃ valid : ProfileName, valid.text = name ∧
      c.setActive (some name) = .ok { c with active := some valid } := by
  obtain ⟨p, hp⟩ := Option.isSome_iff_exists.mp (contains_iff.mpr hname)
  refine ⟨p.name, (mem_of_get? hp).2, ?_⟩
  exact bind_of_ok (require_eq_ok_iff.mpr hp)

/-- A well-formed collection is that of its profiles and its pointer. -/
theorem WellFormed.ofProfiles_eq (h : c.WellFormed) :
    ofProfiles c.profiles c.activeName? = .ok c := by
  rw [ofProfiles_of_nodup _ h.nodup_names]
  obtain ⟨profiles, active⟩ := c
  cases active with
  | none => rfl
  | some name =>
    have hname : name.text ∈ (Collection.mk profiles none).names := h.active_mem name.text rfl
    obtain ⟨valid, hvalid, hset⟩ := exists_setActive hname
    rwa [ProfileName.eq_of_text_eq hvalid] at hset

/-- The profiles of a document are read one after another. -/
private theorem mapM_ofToml (profiles : List Profile) :
    (profiles.map Profile.toMember).mapM (fun (name, value) => Profile.ofToml name value) =
      .ok profiles :=
  mapM_eq_ok_iff.mpr (List.forall₂_map_left_iff.mpr
    (List.forall₂_same.mpr fun p _ => p.ofToml_toMember))

/-- A stored collection is read back if its document is. -/
theorem WellFormed.parse_render (h : c.WellFormed) (hreads : c.toDocument.ReadsBack) :
    parse c.render = .ok c := by
  obtain ⟨t, hread, hmembers⟩ := hreads
  unfold parse render
  have hstored : (c.toDocument.profiles.map fun (name, members) =>
      (name, Toml.Value.table (members.map fun (key, raw) => (key, raw.toToml)))) =
        c.profiles.map Profile.toMember := List.map_map
  rw [hread, Option.elim_some, ofTable, hmembers, hstored]
  change (do
    let profiles ← (c.profiles.map Profile.toMember).mapM
      fun (name, value) => Profile.ofToml name value
    ofStored profiles c.activeName?) = Except.ok c
  rw [mapM_ofToml]
  change (ofProfiles c.profiles c.activeName?).mapError _ = Except.ok c
  rw [h.ofProfiles_eq]
  rfl

/-- What is read from a text is well-formed. -/
theorem wellFormed_of_parse {s : String} (hok : parse s = .ok c) : c.WellFormed := by
  unfold parse at hok
  cases hread : Toml.read? s with
  | none => simp [hread] at hok
  | some t =>
    rw [hread, Option.elim_some] at hok
    obtain ⟨⟨active, members⟩, -, hok⟩ := bind_eq_ok hok
    obtain ⟨profiles, -, hok⟩ := bind_eq_ok hok
    unfold ofStored at hok
    cases hmade : ofProfiles profiles active with
    | error e => simp [hmade, Except.mapError] at hok
    | ok made =>
      have hsame : made = c := by simpa [hmade, Except.mapError] using hok
      exact hsame ▸ (Initial.ofProfiles hmade).wellFormed

end Collection

end LayeredSettings
