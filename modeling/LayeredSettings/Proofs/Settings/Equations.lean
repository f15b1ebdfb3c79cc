import LayeredSettings.Proofs.Settings.Rounds

/-!
# Template defaults solve their equations

Each template default that no layer has replaced is an equation: the setting holds the value that
the template gives when it is filled with what all settings hold. A resolution that succeeds solves
these equations, and they have no other solution.
-/

namespace LayeredSettings

variable {r : Registry} {s : Settings}

/-- An entry of a definition that no layer has replaced and whose default is a template. -/
def Entry.LeftTo (e : Entry) (d : Definition) (template : String) : Prop :=
  d.name = e.name ∧ e.source = .default ∧ d.defaultValue = .template template

/-- The equations of a snapshot, for what its settings might hold. -/
structure Settings.Equations (s : Settings) (r : Registry) (a : Assignment) : Prop where
  /-- Entries that are not left to a template hold what the snapshot holds. -/
  agrees : ∀ e ∈ s.entries, (∀ d ∈ r.definitions, ∀ template, ¬ e.LeftTo d template) →
    a e.name = e.value
  /-- Entries that are left to a template hold the value that it gives. -/
  solves : ∀ e ∈ s.entries, ∀ d ∈ r.definitions, ∀ template, e.LeftTo d template →
    ∃ value, a e.name = some value ∧
      d.cast r.home (.text (Template.fill (a.text r) template)) = .ok value

/-- Where names and layers stay as they are, an entry has one of its name and layer to go back to.
-/
private theorem exists_head {entries final : List Entry}
    (hheads : final.map (fun e => (e.name, e.source)) = entries.map (fun e => (e.name, e.source)))
    {e : Entry} (he : e ∈ final) : ∃ f ∈ entries, f.name = e.name ∧ f.source = e.source := by
  have hmem : (e.name, e.source) ∈ entries.map (fun e => (e.name, e.source)) :=
    hheads ▸ List.mem_map_of_mem he
  obtain ⟨f, hf, heq⟩ := List.mem_map.mp hmem
  exact ⟨f, hf, Prod.mk.inj heq⟩

/-- The definitions whose templates wait are those to whose templates entries are left, before and
after the templates are filled. -/
theorem isOpen_iff_leftTo {entries final : List Entry}
    (hheads : final.map (fun e => (e.name, e.source)) = entries.map (fun e => (e.name, e.source)))
    {d : Definition} :
    Expansion.isOpen entries d ↔ ∃ e ∈ final, ∃ template, e.LeftTo d template := by
  have hopen : Expansion.isOpen entries d ↔ ∃ template, d.defaultValue = .template template ∧
      ∃ f ∈ entries, f.name = d.name ∧ f.source = .default := by
    unfold Expansion.isOpen Definition.template?
    cases d.defaultValue <;> simp
  rw [hopen]
  constructor
  · rintro ⟨template, hdefault, f, hf, hname, hsource⟩
    obtain ⟨e, he, hename, hesource⟩ := exists_head hheads.symm hf
    exact ⟨e, he, template, hname.symm.trans hename.symm, hesource.trans hsource, hdefault⟩
  · rintro ⟨e, he, template, hname, hsource, hdefault⟩
    obtain ⟨f, hf, hfname, hfsource⟩ := exists_head hheads he
    exact ⟨template, hdefault, f, hf, hfname.trans hname.symm, hfsource.trans hsource⟩

/-- What solves the template of a definition is what solves it for the entry that is left to it. -/
private theorem Entry.LeftTo.solves_iff {e : Entry} {d : Definition} {template : String}
    (hleft : e.LeftTo d template) {a : Assignment} :
    a.Solves r d (d.template?.getD "") ↔ ∃ value, a e.name = some value ∧
      d.cast r.home (.text (Template.fill (a.text r) template)) = .ok value := by
  obtain ⟨hname, -, hdefault⟩ := hleft
  have htemplate : d.template?.getD "" = template := by simp [Definition.template?, hdefault]
  rw [Assignment.Solves, htemplate, hname]

/-- Expanding the templates of entries that stand in the order of the registry keeps that order,
solves the equations of what comes out, and no other values solve these. -/
theorem solves_of_expandTemplates (h : r.Consistent) {entries : List Entry}
    (hnames : entries.map (·.name) = r.names) (hok : expandTemplates r entries = .ok s.entries) :
    s.entries.map (·.name) = r.names ∧ s.Equations r s.value? ∧
      ∀ a, s.Equations r a → ∀ e ∈ s.entries, a e.name = e.value := by
  obtain ⟨-, hfilled⟩ :=
    Expansion.filled_of_rounds h (fun d hd => List.mem_of_mem_filter hd) hnames hok
  have horder : s.entries.map (·.name) = r.names := by
    have hfst := congrArg (List.map Prod.fst) hfilled.heads
    simp only [List.map_map, Function.comp_def] at hfst
    exact hfst.trans hnames
  have hheld : ∀ e ∈ s.entries, s.value? e.name = e.value := fun e he =>
    Settings.value?_of_mem (horder ▸ h.nodup_names) he
  have hwaits : ∀ e ∈ s.entries, ∀ d ∈ r.definitions, ∀ template, e.LeftTo d template →
      d ∈ r.definitions.filter (Expansion.isOpen entries) := fun e he d hd template hleft =>
    List.mem_filter.mpr ⟨hd, (isOpen_iff_leftTo hfilled.heads).mpr ⟨e, he, template, hleft⟩⟩
  refine ⟨horder, ⟨fun e he _ => hheld e he, fun e he d hd template hleft => ?_⟩,
    fun a heqs e he => ?_⟩
  · exact hleft.solves_iff.mp (hfilled.solved d (hwaits e he d hd template hleft))
  · -- Entries of settings that do not wait are not left to a template.
    have hother : ∀ f ∈ s.entries,
        (∀ w ∈ r.definitions.filter (Expansion.isOpen entries), w.name ≠ f.name) →
          a f.name = f.value := fun f hf hnot =>
      heqs.agrees f hf fun d hd template hleft =>
        hnot d (hwaits f hf d hd template hleft) hleft.1
    by_cases hwait : ∃ w ∈ r.definitions.filter (Expansion.isOpen entries), w.name = e.name
    · obtain ⟨w, hw, hname⟩ := hwait
      rw [← hheld e he, ← hname]
      refine hfilled.unique a (fun d hd hnot => ?_) (fun d hd => ?_) w hw
      · have hmem : d.name ∈ s.entries.map (·.name) := by
          rw [horder]
          exact List.mem_map_of_mem hd
        obtain ⟨f, hf, hfname⟩ := List.mem_map.mp hmem
        have hbefore := hfilled.kept d.name hnot
        rw [← hfname] at hnot hbefore ⊢
        rw [hother f hf hnot, ← hheld f hf, Settings.value?, hbefore, Settings.value?]
      · obtain ⟨hd, hopen⟩ := List.mem_filter.mp hd
        obtain ⟨f, hf, template, hleft⟩ := (isOpen_iff_leftTo hfilled.heads).mp hopen
        exact hleft.solves_iff.mpr (heqs.solves f hf d hd template hleft)
    · exact hother e he fun w hw hname => hwait ⟨w, hw, hname⟩

/-- Expanding the templates changes no entry but those that are left to a template, and leaves these
at their defaults. -/
theorem entry_of_expandTemplates (h : r.Consistent) {entries : List Entry}
    (hnames : entries.map (·.name) = r.names) (hok : expandTemplates r entries = .ok s.entries)
    {e f : Entry} (hf : f ∈ entries) (he : e ∈ s.entries) (hname : e.name = f.name) :
    e.source = f.source ∧
      ((∀ d ∈ r.definitions, ∀ template, ¬ f.LeftTo d template) → e = f) := by
  obtain ⟨horder, -, -⟩ := solves_of_expandTemplates h hnames hok
  obtain ⟨-, hfilled⟩ :=
    Expansion.filled_of_rounds h (fun d hd => List.mem_of_mem_filter hd) hnames hok
  have hnodup : (entries.map (·.name)).Nodup := hnames ▸ h.nodup_names
  constructor
  · obtain ⟨g, hg, hgname, hgsource⟩ := exists_head hfilled.heads he
    rw [List.inj_on_of_nodup_map hnodup hf hg (hname.symm.trans hgname.symm), hgsource]
  · intro hnot
    have hkept := hfilled.kept f.name fun w hw hwname => by
      obtain ⟨hw, hopen⟩ := List.mem_filter.mp hw
      obtain ⟨g, hg, template, hleft⟩ : ∃ g ∈ entries, ∃ template, g.LeftTo w template :=
        (isOpen_iff_leftTo rfl).mp hopen
      have hgf := List.inj_on_of_nodup_map hnodup hg hf (hleft.1.symm.trans hwname)
      exact hnot w hw template (hgf ▸ hleft)
    have hfound : s.get? f.name = some e :=
      (Settings.get?_eq_some_iff (horder ▸ h.nodup_names)).mpr ⟨he, hname⟩
    have hbefore : (Settings.mk entries).get? f.name = some f :=
      (Settings.get?_eq_some_iff hnodup).mpr ⟨hf, rfl⟩
    exact Option.some.inj (hfound.symm.trans (hkept.trans hbefore))

/-- After a successful resolution the settings at template defaults hold the values that their
templates give when filled with what all settings hold in the end, and that is the only way to
give them values beside those of the other settings. -/
theorem resolve_unique_solution {envPrefix : String} {home : Home} {definitions : List Definition}
    (hbuild : Registry.build envPrefix home definitions = .ok r) {env : Environment}
    {c : Collection} {profile : Option String} {overrides : Overrides}
    (hok : resolve r env c profile overrides = .ok s) :
    s.Equations r s.value? ∧ ∀ a, s.Equations r a → ∀ e ∈ s.entries, a e.name = e.value := by
  obtain ⟨-, h⟩ := Registry.consistent_of_build hbuild
  obtain ⟨chosen, named, -, -, -, hentries⟩ := resolve_eq_ok hok
  exact (solves_of_expandTemplates h (map_mergedEntry_name _) hentries).2

/-- Settings of which two are made from others; one template refers to a setting by an old name. -/
def addressCatalog : List Definition :=
  [{ name := "URL", kind := .string, defaultValue := .template "http://${ADDRESS}/" },
   { name := "ADDRESS", kind := .string, defaultValue := .template "${SERVER}:${PORT}" },
   { name := "HOST", kind := .string, defaultValue := .fixed (.string "localhost"),
     aliases := ["SERVER"] },
   { name := "PORT", kind := .integer, defaultValue := .fixed (.integer 80),
     validator := Validator.port }]

/-- The address settings can be built. -/
theorem build_addressCatalog :
    Registry.build "" none addressCatalog = .ok ⟨"", none, addressCatalog⟩ := by
  have hsound : (Registry.mk "" none addressCatalog).fault? = none := by decide +kernel
  simp only [Registry.build, hsound, Option.elim_none]

/-- The address of a server whose port the environment gives. -/
def addressSettings : Settings :=
  ⟨[⟨"URL", some (.string "http://localhost:8080/"), .default⟩,
    ⟨"ADDRESS", some (.string "localhost:8080"), .default⟩,
    ⟨"HOST", some (.string "localhost"), .default⟩,
    ⟨"PORT", some (.integer 8080), .environment⟩]⟩

/-- The address settings with a port from the environment are the only solution of their equations.
-/
theorem resolve_unique_solution_of_address :
    ∃ r, Registry.build "" none addressCatalog = .ok r ∧
      resolve r (.ofList [("PORT", "8080")]) .empty none .empty = .ok addressSettings ∧
      addressSettings.Equations r addressSettings.value? ∧
      ∀ a, addressSettings.Equations r a → ∀ e ∈ addressSettings.entries, a e.name = e.value := by
  have hok : resolve ⟨"", none, addressCatalog⟩ (.ofList [("PORT", "8080")]) .empty none .empty =
      .ok addressSettings := by decide +kernel
  exact ⟨_, build_addressCatalog, hok, resolve_unique_solution build_addressCatalog hok⟩

end LayeredSettings
