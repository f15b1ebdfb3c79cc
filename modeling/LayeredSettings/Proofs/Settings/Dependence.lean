import LayeredSettings.Proofs.Settings.Equations

/-!
# What a template default depends on

Rounds that succeed rank the templates: each stands above those that it refers to. So what a setting
holds in the end depends on the entries before the rounds of those settings only that its template
refers to, directly or through other templates. And ranked templates whose equations some values
solve are filled in rounds that succeed.
-/

namespace LayeredSettings

variable {r : Registry}

namespace Expansion

variable {waiting : List Definition} {d : Definition}

/-- A template that waits stands above those that wait and that it refers to. -/
def Ranked (r : Registry) (waiting : List Definition) (rank : Definition → ℕ) : Prop :=
  ∀ d ∈ waiting, ∀ reference ∈ d.references, ∀ target ∈ waiting,
    r.find? reference = some target → rank target < rank d

/-- Some of the templates that wait are ranked as they are among all. -/
theorem Ranked.mono {rank : Definition → ℕ} {fewer : List Definition} (h : Ranked r waiting rank)
    (hfewer : ∀ d ∈ fewer, d ∈ waiting) : Ranked r fewer rank :=
  fun d hd reference href target htarget =>
    h d (hfewer d hd) reference href target (hfewer target htarget)

/-- A template that is ready refers to none that waits. -/
theorem not_mem_of_isReady (hready : isReady r waiting d) {reference : String}
    (href : reference ∈ d.references) {target : Definition}
    (hfind : r.find? reference = some target) : target ∉ waiting := by
  intro htarget
  have hknown := List.all_eq_true.mp hready reference href
  have hnot : ∀ w ∈ waiting, w.name ≠ target.name := by simpa [hfind] using hknown
  exact hnot target htarget rfl

/-- A template that is not ready refers to one that waits. -/
theorem exists_mem_of_not_isReady (h : r.Consistent) (hwaiting : ∀ w ∈ waiting, w ∈ r.definitions)
    (hd : d ∈ waiting) (hnot : ¬ isReady r waiting d) :
    ∃ reference ∈ d.references, ∃ target ∈ waiting, r.find? reference = some target := by
  unfold isReady at hnot
  simp only [List.all_eq_true, not_forall] at hnot
  obtain ⟨reference, href, hwaits⟩ := hnot
  obtain ⟨target, hfind, -⟩ := h.references_known d (hwaiting d hd) reference href
  obtain ⟨w, hw, hname⟩ : ∃ w ∈ waiting, w.name = target.name := by simpa [hfind] using hwaits
  have hsame := h.eq_of_name_eq (hwaiting w hw) (h.find?_eq_some_iff.mp hfind).1 hname
  exact ⟨reference, href, target, hsame ▸ hw, hfind⟩

/-- Rounds that succeed rank the templates by the round in which each is filled. -/
theorem exists_ranked_of_rounds {entries final : List Entry} {failures : List Failure}
    (hok : rounds r waiting entries failures = .ok final) : ∃ rank, Ranked r waiting rank := by
  fun_induction rounds r waiting entries failures with
  | case1 entries failures => exact ⟨fun _ => 0, fun d hd => absurd hd List.not_mem_nil⟩
  | case2 entries failures d rest hstuck => cases hok
  | case3 entries failures d rest hstuck ready ih =>
    obtain ⟨rank, hrank⟩ := ih hok
    refine ⟨fun w => if isReady r (d :: rest) w then 0 else rank w + 1, ?_⟩
    intro w hw reference href target htarget hfind
    by_cases hready : isReady r (d :: rest) w
    · exact absurd htarget (not_mem_of_isReady hready href hfind)
    · dsimp only
      rw [if_neg hready]
      by_cases hfirst : isReady r (d :: rest) target
      · rw [if_pos hfirst]
        exact Nat.succ_pos _
      · rw [if_neg hfirst]
        have hlt := hrank w (List.mem_filter.mpr ⟨hw, by simpa using hready⟩) reference href target
          (List.mem_filter.mpr ⟨htarget, by simpa using hfirst⟩) hfind
        exact Nat.succ_lt_succ hlt

/-- Of ranked templates that wait one is ready. -/
private theorem exists_ready_of_ranked (h : r.Consistent)
    (hwaiting : ∀ w ∈ waiting, w ∈ r.definitions) {rank : Definition → ℕ}
    (hrank : Ranked r waiting rank) (hd : d ∈ waiting) : ∃ w ∈ waiting, isReady r waiting w := by
  -- Going from one that is not ready to one that it waits for leads down in rank.
  induction hlevel : rank d using Nat.strong_induction_on generalizing d with
  | _ level ih =>
    by_cases hready : isReady r waiting d
    · exact ⟨d, hd, hready⟩
    · obtain ⟨reference, href, target, htarget, hfind⟩ :=
        exists_mem_of_not_isReady h hwaiting hd hready
      exact ih (rank target) (hlevel ▸ hrank d hd reference href target htarget hfind) htarget rfl

/-- Ranked templates whose equations some values solve, beside what the other settings hold, are
filled in rounds that succeed. -/
theorem exists_final_of_ranked (h : r.Consistent) {entries : List Entry} {failures : List Failure}
    (hwaiting : ∀ w ∈ waiting, w ∈ r.definitions) (hnames : entries.map (·.name) = r.names)
    {rank : Definition → ℕ} (hrank : Ranked r waiting rank) {a : Assignment}
    (hagree : ∀ e ∈ r.definitions, (∀ w ∈ waiting, w.name ≠ e.name) →
      a e.name = (Settings.mk entries).value? e.name)
    (hsolves : ∀ d ∈ waiting, a.Solves r d (d.template?.getD "")) (hnone : failures = []) :
    ∃ final, rounds r waiting entries failures = .ok final := by
  fun_induction rounds r waiting entries failures with
  | case1 entries failures =>
    subst hnone
    exact ⟨entries, rfl⟩
  | case2 entries failures d rest hstuck =>
    obtain ⟨w, hw, hready⟩ := exists_ready_of_ranked h hwaiting hrank List.mem_cons_self
    exact absurd hready (by simpa using List.filter_eq_nil_iff.mp hstuck w hw)
  | case3 entries failures d rest hstuck ready ih =>
    have hmem : ∀ w ∈ ready, w ∈ d :: rest ∧ isReady r (d :: rest) w := fun w hw =>
      List.mem_filter.mp hw
    have hfilled : ∀ w ∈ ready, ∃ value, a w.name = some value ∧
        filledDefault r entries w = .ok value := by
      intro w hw
      obtain ⟨hwait, hready⟩ := hmem w hw
      obtain ⟨value, hvalue, hcast⟩ := hsolves w hwait
      rw [fill_eq_of_isReady h hready hagree] at hcast
      exact ⟨value, hvalue, hcast⟩
    have hfits : readyFailures r ready entries = [] := by
      refine List.filterMap_eq_nil_iff.mpr fun w hw => ?_
      obtain ⟨value, -, hok⟩ := hfilled w hw
      rw [hok]
    refine ih (fun w hw => hwaiting w (List.mem_of_mem_filter hw))
      ((map_name_fillReady r ready entries).trans hnames)
      (hrank.mono fun w hw => List.mem_of_mem_filter hw) ?_
      (fun w hw => hsolves w (List.mem_of_mem_filter hw)) (by rw [hnone, hfits]; rfl)
    intro e he hnot
    by_cases hwait : ∃ w ∈ d :: rest, w.name = e.name
    · obtain ⟨w, hw, hname⟩ := hwait
      have hreadyw : isReady r (d :: rest) w := by
        by_contra hnotready
        exact hnot w (List.mem_filter.mpr ⟨hw, by simpa using hnotready⟩) hname
      have hw' : w ∈ ready := List.mem_filter.mpr ⟨hw, hreadyw⟩
      obtain ⟨value, hvalue, hok⟩ := hfilled w hw'
      rw [← hname, hvalue, value?_fillReady_of_ready h
        (fun v hv => hwaiting v (hmem v hv).1) hw' hok
        (hnames ▸ List.mem_map_of_mem (hwaiting w hw))]
    · have hnotwait : ∀ w ∈ d :: rest, w.name ≠ e.name := fun w hw hname => hwait ⟨w, hw, hname⟩
      rw [hagree e he hnotwait, Settings.value?, Settings.value?, get?_fillReady_of_not_ready
        fun w hw => hnotwait w (hmem w hw).1]

/-- Ranked templates that give a value whatever they are filled with are filled in rounds that
succeed. -/
theorem exists_final_of_casts (h : r.Consistent) {entries : List Entry} {failures : List Failure}
    (hwaiting : ∀ w ∈ waiting, w ∈ r.definitions) {rank : Definition → ℕ}
    (hrank : Ranked r waiting rank)
    (hcasts : ∀ w ∈ waiting, ∀ text, ∃ value, w.cast r.home (.text text) = .ok value)
    (hnone : failures = []) : ∃ final, rounds r waiting entries failures = .ok final := by
  fun_induction rounds r waiting entries failures with
  | case1 entries failures =>
    subst hnone
    exact ⟨entries, rfl⟩
  | case2 entries failures d rest hstuck =>
    obtain ⟨w, hw, hready⟩ := exists_ready_of_ranked h hwaiting hrank List.mem_cons_self
    exact absurd hready (by simpa using List.filter_eq_nil_iff.mp hstuck w hw)
  | case3 entries failures d rest hstuck ready ih =>
    have hfits : readyFailures r ready entries = [] := by
      refine List.filterMap_eq_nil_iff.mpr fun w hw => ?_
      obtain ⟨value, hok⟩ := hcasts w (List.mem_of_mem_filter hw)
        (Template.fill (renderedValue r entries) (w.template?.getD ""))
      have hfilled : filledDefault r entries w = .ok value := hok
      rw [hfilled]
    exact ih (fun w hw => hwaiting w (List.mem_of_mem_filter hw))
      (hrank.mono fun w hw => List.mem_of_mem_filter hw)
      (fun w hw => hcasts w (List.mem_of_mem_filter hw)) (by rw [hnone, hfits]; rfl)

end Expansion

/-- With one entry for each name, a definition is open if its entry is at its default, a template.
-/
theorem isOpen_iff_get? {entries : List Entry} (hnodup : (entries.map (·.name)).Nodup)
    {d : Definition} : Expansion.isOpen entries d ↔
      d.template?.isSome ∧
        ∃ e, (Settings.mk entries).get? d.name = some e ∧ e.source = .default := by
  unfold Expansion.isOpen
  rw [Bool.and_eq_true, List.any_eq_true]
  refine and_congr_right fun _ => exists_congr fun e => ?_
  rw [Settings.get?_eq_some_iff hnodup, and_assoc]
  simp

/-- Whether a definition is open depends on its entry. -/
theorem isOpen_congr (h : r.Consistent) {entries others : List Entry}
    (hnames : entries.map (·.name) = r.names) (hothers : others.map (·.name) = r.names)
    {d : Definition}
    (hsame : (Settings.mk entries).get? d.name = (Settings.mk others).get? d.name) :
    Expansion.isOpen entries d ↔ Expansion.isOpen others d := by
  rw [isOpen_iff_get? (hnames ▸ h.nodup_names), hsame, isOpen_iff_get? (hothers ▸ h.nodup_names)]

section Expanded

variable {entries : List Entry} {s : Settings} {d : Definition} (h : r.Consistent)
  (hnames : entries.map (·.name) = r.names) (hok : expandTemplates r entries = .ok s.entries)
include h hnames hok

/-- A setting that no template is filled for has the entry that it had before. -/
theorem get?_of_not_isOpen (hd : d ∈ r.definitions) (hnot : ¬ Expansion.isOpen entries d) :
    s.get? d.name = (Settings.mk entries).get? d.name := by
  obtain ⟨-, hfilled⟩ :=
    Expansion.filled_of_rounds h (fun w hw => List.mem_of_mem_filter hw) hnames hok
  refine hfilled.kept d.name fun w hw hname => ?_
  obtain ⟨hw, hopen⟩ := List.mem_filter.mp hw
  exact hnot (h.eq_of_name_eq hw hd hname ▸ hopen)

/-- A setting that a template was filled for has the value that it gives, by default. -/
theorem get?_of_isOpen (hd : d ∈ r.definitions) (hopen : Expansion.isOpen entries d) :
    ∃ value, s.get? d.name = some ⟨d.name, some value, .default⟩ ∧
      d.cast r.home
        (.text (Template.fill (Assignment.text s.value? r) (d.template?.getD ""))) = .ok value := by
  obtain ⟨-, hfilled⟩ :=
    Expansion.filled_of_rounds h (fun w hw => List.mem_of_mem_filter hw) hnames hok
  obtain ⟨horder, -, -⟩ := solves_of_expandTemplates h hnames hok
  obtain ⟨e, he, template, hname, hsource, -⟩ :=
    (isOpen_iff_leftTo hfilled.heads).mp hopen
  obtain ⟨value, hvalue, hcast⟩ := hfilled.solved d (List.mem_filter.mpr ⟨hd, hopen⟩)
  have hnodup : (s.entries.map (·.name)).Nodup := horder ▸ h.nodup_names
  have hheld : e.value = some value := by
    rw [← Settings.value?_of_mem hnodup he, ← hname]
    exact hvalue
  have hentry : e = ⟨d.name, some value, .default⟩ := by rw [hname, ← hheld, ← hsource]
  exact ⟨value, hentry ▸ (Settings.get?_eq_some_iff hnodup).mpr ⟨he, hname.symm⟩, hcast⟩

/-- The settings that templates were filled for are those that are left to one. -/
theorem isOpen_iff_left : Expansion.isOpen entries d ↔
    ∃ e ∈ s.entries, ∃ template, e.LeftTo d template := by
  obtain ⟨-, hfilled⟩ :=
    Expansion.filled_of_rounds h (fun w hw => List.mem_of_mem_filter hw) hnames hok
  exact isOpen_iff_leftTo hfilled.heads

/-- A setting that a template was filled for is left to it. -/
theorem leftTo_of_isOpen (hopen : Expansion.isOpen entries d) :
    ∃ e ∈ s.entries, ∃ template, e.LeftTo d template :=
  (isOpen_iff_left h hnames hok).mp hopen

end Expanded

namespace Settings

variable {s t : Settings} {changed : Definition → Prop} {d target : Definition}

/-- A setting is left to its template, which refers to another setting. -/
def RefersTo (s : Settings) (r : Registry) (d target : Definition) : Prop :=
  (∃ e ∈ s.entries, ∃ template, e.LeftTo d template) ∧
    ∃ reference ∈ d.references, r.find? reference = some target

/-- A setting that has not changed itself is left to a template that refers to a setting that has
changed, directly or through other settings of this sort. -/
inductive DrawsOn (s : Settings) (r : Registry) (changed : Definition → Prop) : Definition → Prop
  | direct {d target : Definition} (hunchanged : ¬ changed d) (hrefers : s.RefersTo r d target)
      (hchanged : changed target) : DrawsOn s r changed d
  | through {d target : Definition} (hunchanged : ¬ changed d) (hrefers : s.RefersTo r d target)
      (hdraws : DrawsOn s r changed target) : DrawsOn s r changed d

/-- A setting that draws on changes has not changed itself. -/
theorem DrawsOn.not_changed (h : s.DrawsOn r changed d) : ¬ changed d := by
  cases h with
  | direct hunchanged _ _ => exact hunchanged
  | through hunchanged _ _ => exact hunchanged

/-- What a setting refers to that neither has changed nor draws on changes does neither too. -/
theorem not_drawsOn_of_refersTo (hunchanged : ¬ changed d) (hnot : ¬ s.DrawsOn r changed d)
    (hrefers : s.RefersTo r d target) : ¬ changed target ∧ ¬ s.DrawsOn r changed target :=
  ⟨fun hchanged => hnot (.direct hunchanged hrefers hchanged),
    fun hdraws => hnot (.through hunchanged hrefers hdraws)⟩

/-- What the template of a setting stands for depends on what the settings hold that neither have
changed nor draw on changes, if the setting itself is such a one. -/
theorem fill_eq_of_not_drawsOn (hunchanged : ¬ changed d) (hnot : ¬ s.DrawsOn r changed d)
    (hleft : ∃ e ∈ s.entries, ∃ template, e.LeftTo d template) {a b : Assignment}
    (hsame : ∀ target, s.RefersTo r d target → ¬ changed target →
      ¬ s.DrawsOn r changed target → a target.name = b target.name) :
    Template.fill (a.text r) (d.template?.getD "") =
      Template.fill (b.text r) (d.template?.getD "") := by
  refine Template.fill_congr fun reference href => ?_
  unfold Assignment.text
  cases hfind : r.find? reference with
  | none => rfl
  | some target =>
    have hrefers : s.RefersTo r d target :=
      ⟨hleft, reference, d.references_eq ▸ href, hfind⟩
    obtain ⟨hunchanged, hnot⟩ := not_drawsOn_of_refersTo hunchanged hnot hrefers
    simp only [Option.bind_some, hsame target hrefers hunchanged hnot]

/-- Settings that neither have changed nor draw on changes hold in the end what they hold when
templates are filled among the changed entries. -/
theorem get?_eq_of_not_drawsOn (h : r.Consistent) {entries others : List Entry}
    (hnames : entries.map (·.name) = r.names) (hothers : others.map (·.name) = r.names)
    (hs : expandTemplates r entries = .ok s.entries)
    (ht : expandTemplates r others = .ok t.entries)
    (hsame : ∀ d ∈ r.definitions, ¬ changed d →
      (Settings.mk entries).get? d.name = (Settings.mk others).get? d.name)
    (hd : d ∈ r.definitions) (hunchanged : ¬ changed d) (hnot : ¬ s.DrawsOn r changed d) :
    s.get? d.name = t.get? d.name := by
  obtain ⟨rank, hrank⟩ := Expansion.exists_ranked_of_rounds hs
  have hopens : ∀ e ∈ r.definitions, ¬ changed e →
      (Expansion.isOpen entries e ↔ Expansion.isOpen others e) := fun e he hunchanged =>
    isOpen_congr h hnames hothers (hsame e he hunchanged)
  have hclosed : ∀ e ∈ r.definitions, ¬ changed e → ¬ Expansion.isOpen entries e →
      s.get? e.name = t.get? e.name := by
    intro e he hunchanged hnot
    have hnot' : ¬ Expansion.isOpen others e := mt (hopens e he hunchanged).mpr hnot
    rw [get?_of_not_isOpen h hnames hs he hnot, hsame e he hunchanged,
      get?_of_not_isOpen h hothers ht he hnot']
  -- Templates are taken in the order of their ranks: those below agree already.
  induction hlevel : rank d using Nat.strong_induction_on generalizing d with
  | _ level ih =>
    by_cases hopen : Expansion.isOpen entries d
    · obtain ⟨value, hvalue, hcast⟩ := get?_of_isOpen h hnames hs hd hopen
      obtain ⟨other, hother, hcast'⟩ :=
        get?_of_isOpen h hothers ht hd ((hopens d hd hunchanged).mp hopen)
      have hbelow : ∀ target, s.RefersTo r d target → ¬ changed target →
          ¬ s.DrawsOn r changed target → s.value? target.name = t.value? target.name := by
        rintro target ⟨-, reference, href, hfind⟩ hunchanged hnot
        have htarget := (h.find?_eq_some_iff.mp hfind).1
        unfold value?
        by_cases hwaits : Expansion.isOpen entries target
        · have hlt := hrank d (List.mem_filter.mpr ⟨hd, hopen⟩) reference href target
            (List.mem_filter.mpr ⟨htarget, hwaits⟩) hfind
          rw [ih (rank target) (hlevel ▸ hlt) htarget hunchanged hnot rfl]
        · rw [hclosed target htarget hunchanged hwaits]
      have hleft : ∃ e ∈ s.entries, ∃ template, e.LeftTo d template :=
        leftTo_of_isOpen h hnames hs hopen
      rw [fill_eq_of_not_drawsOn hunchanged hnot hleft hbelow, hcast'] at hcast
      rw [hvalue, hother, Except.ok.inj hcast]
    · exact hclosed d hd hunchanged hopen

end Settings

end LayeredSettings
