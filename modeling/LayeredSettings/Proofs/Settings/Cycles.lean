import LayeredSettings.Proofs.Registry.PlainTemplates
import LayeredSettings.Proofs.Settings.Refusals
import LayeredSettings.Proofs.Settings.Reordering

/-!
# Circles of references

Rounds fill the templates that wait in batches, each batch after all that its templates refer to.
They stop when nothing waits any more or nothing of what waits is ready. Nothing in a circle of
references is ever ready, and within a rest of which nothing is ready the references lead on until
they come back to where they have been. So the rest is what leads into a circle, and if there is a
rest, the resolution fails with its names.
-/

namespace LayeredSettings

variable {r : Registry} {left : Definition → Prop} {d : Definition}

namespace Registry

/-- One of some settings refers to another one of them. -/
def RefersWithin (r : Registry) (left : Definition → Prop) (d target : Definition) : Prop :=
  left d ∧ left target ∧ r.Refers d target

/-- References among some settings lead in a circle. -/
def Cyclic (r : Registry) (left : Definition → Prop) : Prop :=
  ∃ d, Relation.TransGen (r.RefersWithin left) d d

/-- References among some settings lead from one of them into a circle. -/
def ReachesCycle (r : Registry) (left : Definition → Prop) (d : Definition) : Prop :=
  ∃ e, Relation.ReflTransGen (r.RefersWithin left) d e ∧
    Relation.TransGen (r.RefersWithin left) e e

/-- A setting from which a circle is reached refers to such a setting. -/
theorem ReachesCycle.exists_next (h : r.ReachesCycle left d) :
    ∃ target, r.RefersWithin left d target ∧ r.ReachesCycle left target := by
  obtain ⟨e, hreach, hcircle⟩ := h
  rcases hreach.cases_head with rfl | ⟨next, hstep, hrest⟩
  · obtain ⟨next, hstep, hback⟩ := Relation.TransGen.head'_iff.mp hcircle
    exact ⟨next, hstep, d, hback, hcircle⟩
  · exact ⟨next, hstep, e, hrest, hcircle⟩

/-- There is a circle exactly if one is reached from somewhere. -/
theorem cyclic_iff_exists_reachesCycle : r.Cyclic left ↔ ∃ d, r.ReachesCycle left d := by
  constructor
  · rintro ⟨d, hcircle⟩
    exact ⟨d, d, .refl, hcircle⟩
  · rintro ⟨-, e, -, hcircle⟩
    exact ⟨e, hcircle⟩

end Registry

namespace Expansion

variable {waiting rest : List Definition} {batches : List (List Definition)} {entries : List Entry}
  {failures : List Failure}

/-- The rounds for some templates that wait: each takes the batch of those that are ready, and in
the end a rest is left over of which none is. -/
inductive Runs (r : Registry) : List Definition → List (List Definition) → List Definition → Prop
  | stuck {waiting : List Definition} (hstuck : waiting.filter (isReady r waiting) = []) :
      Runs r waiting [] waiting
  | round {waiting rest : List Definition} {batches : List (List Definition)}
      (hready : waiting.filter (isReady r waiting) ≠ [])
      (hruns : Runs r (waiting.filter (!isReady r waiting ·)) batches rest) :
      Runs r waiting (waiting.filter (isReady r waiting) :: batches) rest

/-- Whatever waits, the rounds end. -/
theorem exists_runs (r : Registry) (waiting : List Definition) :
    ∃ batches rest, Runs r waiting batches rest := by
  induction hlength : waiting.length using Nat.strong_induction_on generalizing waiting with
  | _ length ih =>
    by_cases hstuck : waiting.filter (isReady r waiting) = []
    · exact ⟨[], waiting, .stuck hstuck⟩
    · obtain ⟨batches, rest, hruns⟩ := ih _ (hlength ▸ length_filter_not_lt hstuck) _ rfl
      exact ⟨_, rest, .round hstuck hruns⟩

/-- Entries and failures after a round that fills a batch of templates. -/
def fillBatch (r : Registry) (state : List Entry × List Failure) (ready : List Definition) :
    List Entry × List Failure :=
  (fillReady r ready state.1, state.2 ++ readyFailures r ready state.1)

/-- What comes of filling batches of templates one after another: the entries, or all failures. -/
def fillBatches (r : Registry) (batches : List (List Definition)) (entries : List Entry)
    (failures : List Failure) : Except SettingsError (List Entry) := do
  let (entries, failures) := batches.foldl (fillBatch r) (entries, failures)
  SettingsError.ofFailures failures
  return entries

/-- Rounds that leave nothing over fill their batches. -/
theorem Runs.rounds_of_rest_nil (h : Runs r waiting batches rest) (hrest : rest = [])
    (entries : List Entry) (failures : List Failure) :
    rounds r waiting entries failures = fillBatches r batches entries failures := by
  induction h generalizing entries failures with
  | stuck _ =>
    rw [hrest, rounds_nil]
    rfl
  | round hready _ ih =>
    rw [rounds_of_ready hready, ih hrest]
    rfl

/-- Rounds that leave something over end in the error that names it as cyclic. -/
theorem Runs.rounds_of_rest_ne_nil (h : Runs r waiting batches rest) (hrest : rest ≠ [])
    (entries : List Entry) (failures : List Failure) :
    rounds r waiting entries failures =
      .error (RegistryFault.cyclicTemplates (rest.map (·.name))).toError := by
  induction h generalizing entries failures with
  | stuck hstuck => exact rounds_of_stuck hrest hstuck
  | round hready _ ih => rw [rounds_of_ready hready, ih hrest]

/-- Every template that waits is in one of the batches or in the rest. -/
theorem Runs.perm (h : Runs r waiting batches rest) : (batches.flatten ++ rest).Perm waiting := by
  induction h with
  | stuck _ => exact .refl _
  | @round waiting _ _ _ _ ih =>
    rw [List.flatten_cons, List.append_assoc]
    exact (ih.append_left _).trans (List.filter_append_perm _ waiting)

/-- The rest stands in the order in which the templates waited. -/
theorem Runs.rest_sublist (h : Runs r waiting batches rest) : rest.Sublist waiting := by
  induction h with
  | stuck _ => exact .refl _
  | round _ _ ih => exact ih.trans List.filter_sublist

/-- Each round takes a template. -/
theorem Runs.length_le (h : Runs r waiting batches rest) :
    batches.length ≤ batches.flatten.length := by
  induction h with
  | stuck _ => exact Nat.le_refl _
  | round hready _ ih =>
    have hpos := List.length_pos_iff.mpr hready
    rw [List.length_cons, List.flatten_cons, List.length_append]
    omega

/-- What a template refers to among those that wait comes in an earlier batch. -/
theorem Runs.mem_before (h : Runs r waiting batches rest) {before after : List (List Definition)}
    {batch : List Definition} (hsplit : batches = before ++ batch :: after) (hd : d ∈ batch)
    {target : Definition} (htarget : target ∈ waiting) (hrefers : r.Refers d target) :
    target ∈ before.flatten := by
  induction h generalizing before with
  | stuck _ => simp at hsplit
  | @round waiting _ _ _ _ ih =>
    obtain ⟨-, reference, href, hfind⟩ := hrefers
    rcases List.cons_eq_append_iff.mp hsplit with ⟨-, hfirst⟩ | ⟨before, rfl, hlater⟩
    · -- The templates of the first batch are ready, so they refer to none that waits.
      obtain ⟨rfl, -⟩ := List.cons.inj hfirst
      exact absurd htarget (not_mem_of_isReady (List.mem_filter.mp hd).2 href hfind)
    · rw [List.flatten_cons, List.mem_append]
      by_cases hready : isReady r waiting target
      · exact Or.inl (List.mem_filter.mpr ⟨htarget, hready⟩)
      · exact Or.inr (ih hlater (List.mem_filter.mpr ⟨htarget, by simpa using hready⟩))

/-- Settings that wait, and each of which refers to another one of them, are left over. -/
theorem Runs.mem_rest_of_closed (h : Runs r waiting batches rest) {closed : Definition → Prop}
    (hwaits : ∀ d, closed d → d ∈ waiting)
    (hnext : ∀ d, closed d → ∃ target, closed target ∧ r.Refers d target) (hd : closed d) :
    d ∈ rest := by
  induction h with
  | stuck _ => exact hwaits d hd
  | @round waiting _ _ _ _ ih =>
    -- None of them is taken in this round, since what it refers to waits as well.
    refine ih fun e he => List.mem_filter.mpr ⟨hwaits e he, ?_⟩
    obtain ⟨target, htarget, -, reference, href, hfind⟩ := hnext e he
    have hnot : ¬ isReady r waiting e := fun hready =>
      not_mem_of_isReady hready href hfind (hwaits target htarget)
    simpa using hnot

/-- What is left over refers to something that is left over. -/
theorem Runs.exists_refers_of_mem_rest (h : Runs r waiting batches rest) (hr : r.Consistent)
    (hwaiting : ∀ w ∈ waiting, w ∈ r.definitions) (hd : d ∈ rest) :
    ∃ target ∈ rest, r.Refers d target := by
  induction h with
  | @stuck waiting hstuck =>
    have hnot : ¬ isReady r waiting d := List.filter_eq_nil_iff.mp hstuck d hd
    obtain ⟨reference, href, target, htarget, hfind⟩ :=
      exists_mem_of_not_isReady hr hwaiting hd hnot
    exact ⟨target, htarget, hwaiting d hd, reference, href, hfind⟩
  | round _ _ ih => exact ih (fun w hw => hwaiting w (List.mem_of_mem_filter hw)) hd

/-- What is left over is what leads into a circle. -/
theorem Runs.mem_rest_iff (h : Runs r waiting batches rest) (hr : r.Consistent)
    (hwaiting : ∀ w ∈ waiting, w ∈ r.definitions) :
    d ∈ rest ↔ r.ReachesCycle (· ∈ waiting) d := by
  constructor
  · intro hd
    have hnext : ∀ e ∈ rest, ∃ target ∈ rest, r.RefersWithin (· ∈ waiting) e target := by
      intro e he
      obtain ⟨target, htarget, hrefers⟩ := h.exists_refers_of_mem_rest hr hwaiting he
      exact ⟨target, htarget, h.rest_sublist.subset he, h.rest_sublist.subset htarget, hrefers⟩
    exact exists_circle hnext hd
  · refine h.mem_rest_of_closed (fun e he => ?_) fun e he => ?_
    · obtain ⟨_, hstep, -⟩ := he.exists_next
      exact hstep.1
    · obtain ⟨target, ⟨-, -, hrefers⟩, htarget⟩ := he.exists_next
      exact ⟨target, htarget, hrefers⟩

/-- Batches in which the templates of some settings are filled. -/
structure Schedule (r : Registry) (left : Definition → Prop) (batches : List (List Definition)) :
    Prop where
  /-- The templates that are filled are those of the settings. -/
  mem_iff : ∀ d, d ∈ batches.flatten ↔ left d
  /-- Each is filled once. -/
  nodup : batches.flatten.Nodup
  /-- What a template refers to among the settings is filled in an earlier batch. -/
  ordered : ∀ before batch after, batches = before ++ batch :: after → ∀ d ∈ batch,
    ∀ target, left target → r.Refers d target → target ∈ before.flatten
  /-- There are no more batches than templates. -/
  length_le : batches.length ≤ batches.flatten.length

/-- Rounds that leave nothing over follow a schedule. -/
theorem Runs.schedule (h : Runs r waiting batches []) (hnodup : waiting.Nodup)
    (hleft : ∀ d, d ∈ waiting ↔ left d) : Schedule r left batches where
  mem_iff d := by rw [← hleft, ← h.perm.mem_iff, List.append_nil]
  nodup := by
    have hperm := h.perm
    rw [List.append_nil] at hperm
    exact hperm.nodup_iff.mpr hnodup
  ordered _ _ _ hsplit _ hd _ htarget hrefers :=
    h.mem_before hsplit hd ((hleft _).mpr htarget) hrefers
  length_le := h.length_le

/-- Filling batches of templates fails only for values that do not fit. -/
theorem fillBatches_eq_error {e : SettingsError}
    (hfilled : fillBatches r batches entries failures = .error e) :
    ∃ all, e = .validation all := by
  rcases bind_eq_error hfilled with hfailed | ⟨_, -, hdone⟩
  · exact ⟨_, (SettingsError.ofFailures_eq_error_iff.mp hfailed).2⟩
  · cases hdone

end Expansion

/-- The settings that wait for their templates once the layers are merged. -/
def waitingDefinitions (r : Registry) (stored : NameMap Raw) (env : Environment)
    (named : NameMap Value) : List Definition :=
  r.definitions.filter (Expansion.isOpen (mergedEntries r stored env named))

section Resolution

variable {env : Environment} {c : Collection} {profile : Option String} {chosen : Option Profile}
  {overrides : Overrides} {named : NameMap Value} {batches : List (List Definition)}
  {rest : List Definition}
  (h : r.Consistent) (hchosen : chosenProfile c profile = .ok chosen)
  (hnamed : canonicalOverrides r overrides = .ok named) (hfits : r.AllFit env chosen overrides)
  (hruns : Expansion.Runs r (waitingDefinitions r (storedValues r chosen) env named) batches rest)

include h hnamed hfits in
/-- The settings that wait are those left to their templates. -/
theorem mem_waitingDefinitions_iff : d ∈ waitingDefinitions r (storedValues r chosen) env named ↔
    d.LeftToTemplate r env chosen overrides := by
  unfold waitingDefinitions
  rw [List.mem_filter]
  constructor
  · rintro ⟨hd, hopen⟩
    exact (isOpen_iff_leftToTemplate hnamed h hfits hd).mp hopen
  · intro hleft
    exact ⟨hleft.mem, (isOpen_iff_leftToTemplate hnamed h hfits hleft.mem).mpr hleft⟩

include h hnamed hfits hruns in
/-- What the rounds of a resolution leave over is what leads into a circle of settings left to their
templates. -/
theorem mem_rest_iff_reachesCycle : d ∈ rest ↔
    r.ReachesCycle (Definition.LeftToTemplate r env chosen overrides) d := by
  have hleft : (· ∈ waitingDefinitions r (storedValues r chosen) env named) =
      Definition.LeftToTemplate r env chosen overrides :=
    funext fun d => propext (mem_waitingDefinitions_iff h hnamed hfits)
  rw [hruns.mem_rest_iff h fun w hw => List.mem_of_mem_filter hw, hleft]

include h hnamed hfits hruns in
/-- The rounds of a resolution leave something over exactly if settings left to their templates
refer to one another in a circle. -/
theorem rest_ne_nil_iff_cyclic : rest ≠ [] ↔
    r.Cyclic (Definition.LeftToTemplate r env chosen overrides) := by
  rw [Registry.cyclic_iff_exists_reachesCycle]
  constructor
  · intro hne
    obtain ⟨d, hd⟩ := List.exists_mem_of_ne_nil rest hne
    exact ⟨d, (mem_rest_iff_reachesCycle h hnamed hfits hruns).mp hd⟩
  · rintro ⟨d, hd⟩
    exact List.ne_nil_of_mem ((mem_rest_iff_reachesCycle h hnamed hfits hruns).mpr hd)

include h hchosen hnamed hfits hruns in
/-- A resolution whose rounds leave something over fails, with the names of that. -/
theorem resolve_of_rest_ne_nil (hrest : rest ≠ []) : resolve r env c profile overrides =
    .error (RegistryFault.cyclicTemplates (rest.map (·.name))).toError := by
  have hrounds := hruns.rounds_of_rest_ne_nil hrest
    (mergedEntries r (storedValues r chosen) env named) []
  rw [resolve_eq_of_allFit hchosen hnamed h hfits]
  unfold expandTemplates
  unfold waitingDefinitions at hrounds
  rw [hrounds]
  rfl

include h hchosen hnamed hfits hruns in
/-- A resolution whose rounds leave nothing over fills their batches. -/
theorem resolve_of_rest_nil (hrest : rest = []) : resolve r env c profile overrides = do
    let entries ← Expansion.fillBatches r batches
      (mergedEntries r (storedValues r chosen) env named) []
    return ⟨entries⟩ := by
  have hrounds := hruns.rounds_of_rest_nil hrest
    (mergedEntries r (storedValues r chosen) env named) []
  rw [resolve_eq_of_allFit hchosen hnamed h hfits, ← hrounds]
  rfl

end Resolution

/-- If every value that a layer supplies fits, a resolution finds the catalog cyclic exactly if the
settings left to their templates refer to one another in a circle. It then names, in the order of
the registry, those from which a circle is reached. Without a circle the rounds fill the template of
each of these settings once, after all of them that it refers to, and there are no more rounds than
templates. -/
theorem circles_found_exactly {envPrefix : String} {home : Home} {definitions : List Definition}
    (hbuild : Registry.build envPrefix home definitions = .ok r) {env : Environment}
    {c : Collection} {profile : Option String} {chosen : Option Profile} {overrides : Overrides}
    (hselects : c.Selects profile chosen) (hknown : ∀ key ∈ overrides.keys, r.contains key)
    (hfits : r.AllFit env chosen overrides) :
    ((∃ reason, resolve r env c profile overrides = .error (.invalidRegistry reason)) ↔
      r.Cyclic (Definition.LeftToTemplate r env chosen overrides)) ∧
    (r.Cyclic (Definition.LeftToTemplate r env chosen overrides) →
      ∃ circular : List Definition, circular.Sublist r.definitions ∧
        (∀ d, d ∈ circular ↔
          r.ReachesCycle (Definition.LeftToTemplate r env chosen overrides) d) ∧
        resolve r env c profile overrides =
          .error (RegistryFault.cyclicTemplates (circular.map (·.name))).toError) ∧
    (¬ r.Cyclic (Definition.LeftToTemplate r env chosen overrides) →
      ∃ named batches, canonicalOverrides r overrides = .ok named ∧
        Expansion.Runs r (waitingDefinitions r (storedValues r chosen) env named) batches [] ∧
        Expansion.Schedule r (Definition.LeftToTemplate r env chosen overrides) batches ∧
        resolve r env c profile overrides = do
          let entries ← Expansion.fillBatches r batches
            (mergedEntries r (storedValues r chosen) env named) []
          return ⟨entries⟩) := by
  obtain ⟨-, h⟩ := Registry.consistent_of_build hbuild
  have hchosen := chosenProfile_of_selects hselects
  obtain ⟨named, hnamed⟩ := exists_canonicalOverrides hknown
  obtain ⟨batches, rest, hruns⟩ :=
    Expansion.exists_runs r (waitingDefinitions r (storedValues r chosen) env named)
  have hcyclic := rest_ne_nil_iff_cyclic h hnamed hfits hruns
  refine ⟨⟨?_, fun hcircle => ?_⟩, fun hcircle => ?_, fun hnone => ?_⟩
  · rintro ⟨reason, herr⟩
    refine hcyclic.mp fun hrest => ?_
    rw [resolve_of_rest_nil h hchosen hnamed hfits hruns hrest] at herr
    rcases bind_eq_error herr with hfilled | ⟨_, -, hdone⟩
    · obtain ⟨all, hinvalid⟩ := Expansion.fillBatches_eq_error hfilled
      cases hinvalid
    · cases hdone
  · exact ⟨_, resolve_of_rest_ne_nil h hchosen hnamed hfits hruns (hcyclic.mpr hcircle)⟩
  · exact ⟨rest, hruns.rest_sublist.trans List.filter_sublist,
      fun d => mem_rest_iff_reachesCycle h hnamed hfits hruns,
      resolve_of_rest_ne_nil h hchosen hnamed hfits hruns (hcyclic.mpr hcircle)⟩
  · have hrest : rest = [] := by
      by_contra hne
      exact hnone (hcyclic.mp hne)
    have hnodup : (waitingDefinitions r (storedValues r chosen) env named).Nodup :=
      (List.Nodup.of_map _ h.nodup_names).filter _
    refine ⟨named, batches, hnamed, hrest ▸ hruns, ?_,
      resolve_of_rest_nil h hchosen hnamed hfits hruns hrest⟩
    exact (hrest ▸ hruns).schedule hnodup fun d => mem_waitingDefinitions_iff h hnamed hfits

/-- Two settings made from one another, and one made from the second. -/
def ringCatalog : List Definition :=
  [{ name := "LAST", kind := .string, defaultValue := .template "${SECOND}!" },
   { name := "FIRST", kind := .string, defaultValue := .template "<${SECOND}>" },
   { name := "SECOND", kind := .string, defaultValue := .template "(${FIRST})" }]

/-- The ring can be built. -/
theorem build_ringCatalog : Registry.build "" none ringCatalog = .ok ⟨"", none, ringCatalog⟩ := by
  have hsound : (Registry.mk "" none ringCatalog).fault? = none := by decide +kernel
  simp only [Registry.build, hsound, Option.elim_none]

/-- The ring is found without any values, and a value in the environment breaks it. -/
theorem circles_found_exactly_of_ring :
    ∃ r env batches, Registry.build "" none ringCatalog = .ok r ∧
      Collection.Selects .empty none none ∧
      (∀ key ∈ NameMap.keys (.empty : Overrides), r.contains key) ∧
      r.AllFit .empty none .empty ∧ r.AllFit env none .empty ∧
      r.Cyclic (Definition.LeftToTemplate r .empty none .empty) ∧
      resolve r .empty .empty none .empty =
        .error (.invalidRegistry "template defaults reference each other: LAST, FIRST, SECOND") ∧
      ¬ r.Cyclic (Definition.LeftToTemplate r env none .empty) ∧
      Expansion.Schedule r (Definition.LeftToTemplate r env none .empty) batches ∧
      resolve r env .empty none .empty =
        .ok ⟨[⟨"LAST", some (.string "(x)!"), .default⟩,
          ⟨"FIRST", some (.string "x"), .environment⟩,
          ⟨"SECOND", some (.string "(x)"), .default⟩]⟩ := by
  let r : Registry := ⟨"", none, ringCatalog⟩
  let env : Environment := .ofList [("FIRST", "x")]
  have hr : r.Consistent := (Registry.consistent_of_build build_ringCatalog).2
  have hselects : Collection.Selects .empty none none := .nothing rfl
  have hknown : ∀ key ∈ NameMap.keys (.empty : Overrides), r.contains key := by
    intro key hkey
    cases hkey
  have hfits : r.AllFit .empty none .empty := (allFit_iff hr rfl).mpr (by decide +kernel)
  have hfits' : r.AllFit env none .empty := (allFit_iff hr rfl).mpr (by decide +kernel)
  have hring : resolve r .empty .empty none .empty =
      .error (.invalidRegistry "template defaults reference each other: LAST, FIRST, SECOND") := by
    decide +kernel
  have hbroken : resolve r env .empty none .empty =
      .ok ⟨[⟨"LAST", some (.string "(x)!"), .default⟩, ⟨"FIRST", some (.string "x"), .environment⟩,
        ⟨"SECOND", some (.string "(x)"), .default⟩]⟩ := by decide +kernel
  obtain ⟨hfound, -, -⟩ := circles_found_exactly build_ringCatalog hselects hknown hfits
  obtain ⟨hfound', -, hfilled⟩ := circles_found_exactly build_ringCatalog hselects hknown hfits'
  have hopen : ¬ r.Cyclic (Definition.LeftToTemplate r env none .empty) := by
    intro hcircle
    obtain ⟨reason, herr⟩ := hfound'.mpr hcircle
    cases hbroken.symm.trans herr
  obtain ⟨named, batches, -, -, hschedule, -⟩ := hfilled hopen
  exact ⟨r, env, batches, build_ringCatalog, hselects, hknown, hfits, hfits', hfound.mp ⟨_, hring⟩,
    hring, hopen, hschedule, hbroken⟩

end LayeredSettings
