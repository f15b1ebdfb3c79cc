import LayeredSettings.Proofs.Settings.Merging

/-!
# Filling templates in rounds

A template that is ready refers to settings only whose values no later round changes. So every value
read in a round is final, each template is filled with the values that the settings hold in the end,
and nothing else could have been filled in.
-/

namespace LayeredSettings

variable {r : Registry}

/-- Filling a template asks only for the texts of its references. -/
theorem Template.fill_congr {template : String} {f g : String → String}
    (hsame : ∀ name ∈ references template, f name = g name) :
    fill f template = fill g template := by
  unfold fill references at *
  refine congrArg String.ofList (List.flatMap_congr fun piece hpiece => ?_)
  cases piece with
  | literal cs => rfl
  | placeholder name =>
    have hname := hsame (String.ofList name) (List.mem_filterMap.mpr ⟨_, hpiece, rfl⟩)
    simp only [Piece.fill, hname]

/-- The references of a definition are those of its template, of which there are none in an empty
one. -/
theorem Definition.references_eq (d : Definition) :
    d.references = Template.references (d.template?.getD "") := by
  unfold references
  cases d.template? with
  | none => simp [Template.references, Template.pieces, Template.placeholder?]
  | some template => rfl

/-- What settings might hold: a value, or none, for the name of each. -/
abbrev Assignment := String → Option Value

/-- The text that a key stands for when settings hold what an assignment says: the rendering of the
value of the setting that the key belongs to, or nothing if that is unset. -/
def Assignment.text (a : Assignment) (r : Registry) (key : String) : String :=
  (((r.find? key).bind fun d => a d.name).map Value.render).getD ""

/-- A setting holds the value that a template gives when it is filled with what settings hold. -/
def Assignment.Solves (a : Assignment) (r : Registry) (d : Definition) (template : String) : Prop :=
  ∃ value, a d.name = some value ∧
    d.cast r.home (.text (Template.fill (a.text r) template)) = .ok value

namespace Settings

variable {s : Settings} {e : Entry}

/-- If no name occurs twice, an entry is found under a name exactly if it is there. -/
theorem get?_eq_some_iff (hnodup : (s.entries.map (·.name)).Nodup) {name : String} :
    s.get? name = some e ↔ e ∈ s.entries ∧ e.name = name := by
  unfold get?
  constructor
  · intro hfind
    exact ⟨List.mem_of_find?_eq_some hfind, by simpa using List.find?_some hfind⟩
  · rintro ⟨hmem, rfl⟩
    cases hfind : s.entries.find? (·.name = e.name) with
    | none => simpa using List.find?_eq_none.mp hfind e hmem
    | some other =>
      have hname : other.name = e.name := by simpa using List.find?_some hfind
      rw [List.inj_on_of_nodup_map hnodup (List.mem_of_find?_eq_some hfind) hmem hname]

/-- The value found under the name of an entry is that of the entry. -/
theorem value?_of_mem (hnodup : (s.entries.map (·.name)).Nodup) (hmem : e ∈ s.entries) :
    s.value? e.name = e.value := by
  unfold value?
  rw [(get?_eq_some_iff hnodup).mpr ⟨hmem, rfl⟩]
  rfl

end Settings

namespace Expansion

variable {waiting ready : List Definition} {entries final : List Entry} {d : Definition}

/-- An entry with the value of its template, if that is ready. -/
def fillEntry (r : Registry) (ready : List Definition) (entries : List Entry) (e : Entry) : Entry :=
  match ready.find? (·.name = e.name) with
  | none => e
  | some d =>
    match filledDefault r entries d with
    | .ok value => { e with value := some value }
    | .error _ => e

/-- A round fills each entry by itself. -/
theorem fillReady_eq_map (r : Registry) (ready : List Definition) (entries : List Entry) :
    fillReady r ready entries = entries.map (fillEntry r ready entries) := rfl

/-- Filling an entry keeps its name and its layer. -/
theorem head_fillEntry (r : Registry) (ready : List Definition) (entries : List Entry) (e : Entry) :
    (fillEntry r ready entries e).name = e.name ∧
      (fillEntry r ready entries e).source = e.source := by
  unfold fillEntry
  split
  · exact ⟨rfl, rfl⟩
  · split
    · exact ⟨rfl, rfl⟩
    · exact ⟨rfl, rfl⟩

/-- What is told of entries besides their values stays as it is when templates are filled. -/
theorem map_head_fillReady (r : Registry) (ready : List Definition) (entries : List Entry) :
    (fillReady r ready entries).map (fun e => (e.name, e.source)) =
      entries.map (fun e => (e.name, e.source)) := by
  rw [fillReady_eq_map, List.map_map]
  refine List.map_congr_left fun e _ => ?_
  obtain ⟨hname, hsource⟩ := head_fillEntry r ready entries e
  simp only [Function.comp_apply, hname, hsource]

/-- The names of entries stay as they are when templates are filled. -/
theorem map_name_fillReady (r : Registry) (ready : List Definition) (entries : List Entry) :
    (fillReady r ready entries).map (·.name) = entries.map (·.name) := by
  have hheads := congrArg (List.map Prod.fst) (map_head_fillReady r ready entries)
  rw [List.map_map, List.map_map] at hheads
  exact hheads

/-- The entry of a name after a round is the entry before it, filled. -/
theorem get?_fillReady (r : Registry) (ready : List Definition) (entries : List Entry)
    (name : String) :
    (Settings.mk (fillReady r ready entries)).get? name =
      ((Settings.mk entries).get? name).map (fillEntry r ready entries) := by
  unfold Settings.get?
  rw [fillReady_eq_map, List.find?_map]
  simp only [Function.comp_def, (head_fillEntry r ready entries _).1]

/-- An entry that is found under a name has it. -/
private theorem name_of_get? {name : String} {e : Entry}
    (h : (Settings.mk entries).get? name = some e) : e.name = name := by
  simpa using List.find?_some h

/-- The entries of settings that are not ready stay as they are. -/
theorem get?_fillReady_of_not_ready {name : String} (hname : ∀ d ∈ ready, d.name ≠ name) :
    (Settings.mk (fillReady r ready entries)).get? name = (Settings.mk entries).get? name := by
  rw [get?_fillReady]
  cases hget : (Settings.mk entries).get? name with
  | none => rfl
  | some e =>
    have hnone : ready.find? (·.name = e.name) = none := by
      rw [name_of_get? hget]
      simpa using hname
    simp only [Option.map_some, fillEntry, hnone]

/-- The entry of a setting that is ready takes the value that its template gives. -/
theorem value?_fillReady_of_ready (h : r.Consistent) (hready : ∀ e ∈ ready, e ∈ r.definitions)
    (hd : d ∈ ready) {value : Value} (hfilled : filledDefault r entries d = .ok value)
    (hknown : d.name ∈ entries.map (·.name)) :
    (Settings.mk (fillReady r ready entries)).value? d.name = some value := by
  rw [Settings.value?, get?_fillReady]
  cases hget : (Settings.mk entries).get? d.name with
  | none =>
    obtain ⟨e, hmem, hname⟩ := List.mem_map.mp hknown
    simpa [hname] using List.find?_eq_none.mp hget e hmem
  | some e =>
    have hfind : ready.find? (·.name = e.name) = some d := by
      rw [name_of_get? hget]
      cases hfind : ready.find? (·.name = d.name) with
      | none => simpa using List.find?_eq_none.mp hfind d hd
      | some other =>
        have hname : other.name = d.name := by simpa using List.find?_some hfind
        rw [h.eq_of_name_eq (hready other (List.mem_of_find?_eq_some hfind)) (hready d hd) hname]
    simp only [Option.map_some, fillEntry, hfind, hfilled, Option.bind_some]

/-- The template of a ready setting is filled alike from any two assignments that agree on the
settings that are not waiting. -/
theorem fill_eq_of_isReady (h : r.Consistent) (hd : isReady r waiting d) {a b : Assignment}
    (hsame : ∀ e ∈ r.definitions, (∀ w ∈ waiting, w.name ≠ e.name) → a e.name = b e.name) :
    Template.fill (a.text r) (d.template?.getD "") =
      Template.fill (b.text r) (d.template?.getD "") := by
  refine Template.fill_congr fun reference href => ?_
  have hknown := List.all_eq_true.mp hd reference (d.references_eq ▸ href)
  unfold Assignment.text
  cases hfind : r.find? reference with
  | none => rfl
  | some target =>
    have hnot : ∀ w ∈ waiting, w.name ≠ target.name := by simpa [hfind] using hknown
    simp only [Option.bind_some, hsame target (h.find?_eq_some_iff.mp hfind).1 hnot]

/-- What it means that the waiting templates have been filled: nothing else has changed, every one
of them is solved, and no other values solve them all. -/
structure Filled (r : Registry) (waiting : List Definition) (entries final : List Entry) :
    Prop where
  /-- Names, layers and their order are as before. -/
  heads : final.map (fun e => (e.name, e.source)) = entries.map (fun e => (e.name, e.source))
  /-- The entries of other settings are as before. -/
  kept : ∀ name, (∀ w ∈ waiting, w.name ≠ name) →
    (Settings.mk final).get? name = (Settings.mk entries).get? name
  /-- The values solve the templates. -/
  solved : ∀ d ∈ waiting, Assignment.Solves (Settings.mk final).value? r d (d.template?.getD "")
  /-- Values that solve the templates beside the other settings' values are these values. -/
  unique : ∀ a : Assignment,
    (∀ e ∈ r.definitions, (∀ w ∈ waiting, w.name ≠ e.name) →
      a e.name = (Settings.mk entries).value? e.name) →
    (∀ d ∈ waiting, a.Solves r d (d.template?.getD "")) →
    ∀ d ∈ waiting, a d.name = (Settings.mk final).value? d.name

/-- With nothing waiting there is nothing to fill. -/
theorem Filled.nil (r : Registry) (entries : List Entry) : Filled r [] entries entries where
  heads := rfl
  kept := by simp
  solved := by simp
  unique := by simp

/-- In a round without failures every ready template gives a value. -/
private theorem filled_of_readyFailures (hnone : readyFailures r ready entries = [])
    (hd : d ∈ ready) : ∃ value, filledDefault r entries d = .ok value := by
  unfold readyFailures at hnone
  have hnone := List.filterMap_eq_nil_iff.mp hnone d hd
  cases hfilled : filledDefault r entries d with
  | ok value => exact ⟨value, rfl⟩
  | error reason => simp [hfilled] at hnone

section Round

variable (h : r.Consistent) (hwaiting : ∀ d ∈ waiting, d ∈ r.definitions)
  (hnames : entries.map (·.name) = r.names)
  (hround : readyFailures r (waiting.filter (isReady r waiting)) entries = [])
  (hrest : Filled r (waiting.filter (!isReady r waiting ·))
    (fillReady r (waiting.filter (isReady r waiting)) entries) final)
include hrest

/-- Settings that were not waiting are as they were when all is filled. -/
private theorem get?_final_of_not_waiting {name : String} (hname : ∀ w ∈ waiting, w.name ≠ name) :
    (Settings.mk final).get? name = (Settings.mk entries).get? name := by
  rw [hrest.kept name fun w hw => hname w (List.mem_of_mem_filter hw)]
  exact get?_fillReady_of_not_ready fun w hw => hname w (List.mem_of_mem_filter hw)

include h hwaiting hnames hround

/-- What a ready setting holds after its round is final, since it is not waiting any more. -/
private theorem value?_of_isReady (hd : d ∈ waiting) (hready : isReady r waiting d) : ∃ value,
    filledDefault r entries d = .ok value ∧
      (Settings.mk (fillReady r (waiting.filter (isReady r waiting)) entries)).value? d.name =
        some value ∧ (Settings.mk final).value? d.name = some value := by
  have hmem := List.mem_filter.mpr ⟨hd, hready⟩
  obtain ⟨value, hok⟩ := filled_of_readyFailures hround hmem
  have hknown : d.name ∈ entries.map (·.name) := hnames ▸ List.mem_map_of_mem (hwaiting d hd)
  have hnow := value?_fillReady_of_ready h
    (fun w hw => hwaiting w (List.mem_of_mem_filter hw)) hmem hok hknown
  have hlater := hrest.kept d.name fun w hw hname => by
    obtain ⟨hw, hnot⟩ := List.mem_filter.mp hw
    rw [h.eq_of_name_eq (hwaiting w hw) (hwaiting d hd) hname, hready] at hnot
    simp at hnot
  exact ⟨value, hok, hnow, by rw [Settings.value?, hlater, ← Settings.value?, hnow]⟩

/-- The values in the end solve every template that waited. -/
private theorem solves_of_round (hd : d ∈ waiting) :
    Assignment.Solves (Settings.mk final).value? r d (d.template?.getD "") := by
  by_cases hready : isReady r waiting d
  · obtain ⟨value, hok, -, hheld⟩ := value?_of_isReady h hwaiting hnames hround hrest hd hready
    refine ⟨value, hheld, ?_⟩
    rw [fill_eq_of_isReady h hready (b := (Settings.mk entries).value?)]
    · exact hok
    · intro e _ hnot
      rw [Settings.value?, get?_final_of_not_waiting hrest hnot, Settings.value?]
  · exact hrest.solved d (List.mem_filter.mpr ⟨hd, by simpa using hready⟩)

/-- Values that solve every template that waited, beside the values of the other settings, are the
values in the end. -/
private theorem eq_of_solves_round {a : Assignment}
    (hagree : ∀ e ∈ r.definitions, (∀ w ∈ waiting, w.name ≠ e.name) →
      a e.name = (Settings.mk entries).value? e.name)
    (hsolves : ∀ d ∈ waiting, a.Solves r d (d.template?.getD "")) (hd : d ∈ waiting) :
    a d.name = (Settings.mk final).value? d.name := by
  have hsame : ∀ w ∈ waiting, isReady r waiting w → ∃ value, a w.name = some value ∧
      (Settings.mk (fillReady r (waiting.filter (isReady r waiting)) entries)).value? w.name =
        some value ∧ (Settings.mk final).value? w.name = some value := by
    intro w hw hready
    obtain ⟨value, hok, hnow, hheld⟩ :=
      value?_of_isReady h hwaiting hnames hround hrest hw hready
    obtain ⟨other, hother, hcast⟩ := hsolves w hw
    rw [fill_eq_of_isReady h hready hagree] at hcast
    have heq : other = value := Except.ok.inj (hcast.symm.trans hok)
    exact ⟨value, heq ▸ hother, hnow, hheld⟩
  by_cases hready : isReady r waiting d
  · obtain ⟨value, hassigned, -, hheld⟩ := hsame d hd hready
    rw [hassigned, hheld]
  · -- The settings that went ahead in this round agree, so the later rounds settle the others.
    refine hrest.unique a (fun e he hnot => ?_)
      (fun w hw => hsolves w (List.mem_of_mem_filter hw)) d
      (List.mem_filter.mpr ⟨hd, by simpa using hready⟩)
    by_cases hwait : ∃ w ∈ waiting, w.name = e.name
    · obtain ⟨w, hw, hname⟩ := hwait
      have hreadyw : isReady r waiting w := by
        by_contra hnotready
        exact hnot w (List.mem_filter.mpr ⟨hw, by simpa using hnotready⟩) hname
      obtain ⟨value, hassigned, hnow, -⟩ := hsame w hw hreadyw
      rw [← hname, hassigned, hnow]
    · have hnotwait : ∀ w ∈ waiting, w.name ≠ e.name := fun w hw hname => hwait ⟨w, hw, hname⟩
      rw [hagree e he hnotwait, Settings.value?, Settings.value?, get?_fillReady_of_not_ready
        fun w hw => hnotwait w (List.mem_of_mem_filter hw)]

/-- One round, in which every ready template gave a value, followed by the rounds for the rest. -/
theorem Filled.of_round : Filled r waiting entries final where
  heads := hrest.heads.trans (map_head_fillReady r _ entries)
  kept _ hname := get?_final_of_not_waiting hrest hname
  solved _ hd := solves_of_round h hwaiting hnames hround hrest hd
  unique _ hagree hsolves _ hd :=
    eq_of_solves_round h hwaiting hnames hround hrest hagree hsolves hd

end Round

/-- If the rounds succeed, nothing was wrong before or during them, and all that waited is filled.
-/
theorem filled_of_rounds (h : r.Consistent) {failures : List Failure}
    (hwaiting : ∀ d ∈ waiting, d ∈ r.definitions) (hnames : entries.map (·.name) = r.names)
    (hok : rounds r waiting entries failures = .ok final) :
    failures = [] ∧ Filled r waiting entries final := by
  fun_induction rounds r waiting entries failures with
  | case1 entries failures =>
    obtain ⟨_, hnone, hok⟩ := bind_eq_ok hok
    cases hok
    exact ⟨SettingsError.ofFailures_eq_ok_iff.mp hnone, .nil r _⟩
  | case2 entries failures d rest hstuck => cases hok
  | case3 entries failures d rest hstuck ready ih =>
    have hrest : ∀ e ∈ (d :: rest).filter (!isReady r (d :: rest) ·), e ∈ r.definitions :=
      fun e he => hwaiting e (List.mem_of_mem_filter he)
    obtain ⟨hnone, hfilled⟩ := ih hrest ((map_name_fillReady r ready entries).trans hnames) hok
    obtain ⟨hbefore, hround⟩ := List.append_eq_nil_iff.mp hnone
    exact ⟨hbefore, .of_round h hwaiting hnames hround hfilled⟩

end Expansion

end LayeredSettings
