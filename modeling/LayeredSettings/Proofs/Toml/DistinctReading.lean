import LayeredSettings.Proofs.Toml.DistinctKeys

/-!
# Reading a document gives distinct keys

Scalars have no keys, and the members of an inline table are put into a table under construction as
those of a whole document are. So whatever text is read, no table of the document has a key twice,
and the table of profiles that the document gives has none twice either.
-/

namespace LayeredSettings.Toml

/-- Whatever is read has a property. -/
def Scan.Gives {α : Type} (scan : Scan α) (P : α → Prop) : Prop :=
  ∀ cs a rest, scan cs = some (a, rest) → P a

/-- The values of lines have no key twice. -/
abbrev DistinctLines (lines : List (List String × Value)) : Prop :=
  ∀ line ∈ lines, line.2.Distinct

section Scalars

variable {value : Value} {cs rest : List Char}

/-- An integer has no keys. -/
private theorem distinct_of_integerOf {i : Int} (h : integerOf? i = some value) :
    value.Distinct := by
  obtain ⟨_, -, rfl⟩ := Option.map_eq_some_iff.mp h
  exact .integer

/-- A floating-point number has no keys. -/
private theorem distinct_of_floatOf {d : Decimal} (h : floatOf? d = some value) :
    value.Distinct := by
  unfold floatOf? at h
  split at h <;> cases h
  exact .float

/-- An integer in some base has no keys. -/
private theorem distinct_of_inBase {base : Nat} (h : inBase? base cs = some (value, rest)) :
    value.Distinct := by
  obtain ⟨_, -, h⟩ := Option.bind_eq_some_iff.mp h
  obtain ⟨_, hvalue, h⟩ := Option.bind_eq_some_iff.mp h
  cases h
  exact distinct_of_integerOf hvalue

/-- A number has no keys. -/
private theorem distinct_of_number (h : number? cs = some (value, rest)) : value.Distinct := by
  unfold number? at h
  split at h
  · exact distinct_of_inBase h
  · exact distinct_of_inBase h
  · exact distinct_of_inBase h
  · split at h
    · cases h
      exact .float
    · cases h
      exact .float
    · obtain ⟨⟨whole, after⟩, -, h⟩ := Option.bind_eq_some_iff.mp h
      dsimp only at h
      split at h
      · obtain ⟨_, -, h⟩ := Option.bind_eq_some_iff.mp h
        obtain ⟨_, -, h⟩ := Option.bind_eq_some_iff.mp h
        obtain ⟨_, hvalue, h⟩ := Option.bind_eq_some_iff.mp h
        cases h
        exact distinct_of_floatOf hvalue
      · obtain ⟨_, -, h⟩ := Option.bind_eq_some_iff.mp h
        split at h
        · obtain ⟨_, hvalue, h⟩ := Option.bind_eq_some_iff.mp h
          cases h
          exact distinct_of_floatOf hvalue
        · obtain ⟨_, hvalue, h⟩ := Option.bind_eq_some_iff.mp h
          cases h
          exact distinct_of_integerOf hvalue

/-- A date has no keys. -/
private theorem distinct_of_datetime (h : datetime? cs = some (value, rest)) :
    value.Distinct := by
  unfold datetime? at h
  split at h
  · obtain ⟨_, -, h⟩ := Option.bind_eq_some_iff.mp h
    split at h
    · split at h
      · obtain ⟨_, -, h⟩ := Option.bind_eq_some_iff.mp h
        obtain ⟨_, -, h⟩ := Option.bind_eq_some_iff.mp h
        cases h
        exact .datetime
      · cases h
        exact .datetime
    · cases h
      exact .datetime
  · obtain ⟨_, -, h⟩ := Option.bind_eq_some_iff.mp h
    cases h
    exact .datetime

/-- A scalar has no keys. -/
theorem scalar_gives_distinct : Scan.Gives scalar? Value.Distinct := by
  intro cs value rest h
  unfold scalar? at h
  split at h
  · cases h
    exact .boolean
  · cases h
    exact .boolean
  · split at h
    · obtain ⟨_, -, h⟩ := Option.map_eq_some_iff.mp h
      cases h
      exact .string
    · split at h
      · exact distinct_of_datetime h
      · exact distinct_of_number h

end Scalars

section Values

variable {value : Scan Value} (hvalue : value.Gives Value.Distinct)
include hvalue

/-- The value of a line is one that was read. -/
theorem line_gives_distinct : (line? value).Gives (·.2.Distinct) := by
  rintro cs line rest h
  obtain ⟨⟨path, after⟩, -, h⟩ := Option.bind_eq_some_iff.mp h
  obtain ⟨_, -, h⟩ := Option.bind_eq_some_iff.mp h
  obtain ⟨⟨v, left⟩, hread, h⟩ := Option.bind_eq_some_iff.mp h
  cases h
  exact hvalue _ _ _ hread

/-- The items of an array are values that were read. -/
theorem items_give_distinct (count : Nat) :
    (items? value count).Gives (∀ item ∈ ·, item.Distinct) := by
  induction count with
  | zero => rintro cs items rest ⟨⟩
  | succ count ih =>
    intro cs items rest h
    rw [items?] at h
    split at h
    · cases h
      simp
    · obtain ⟨⟨item, after⟩, hread, h⟩ := Option.bind_eq_some_iff.mp h
      have hitem := hvalue _ _ _ hread
      dsimp only at h
      split at h
      · obtain ⟨⟨others, left⟩, hothers, h⟩ := Option.bind_eq_some_iff.mp h
        cases h
        exact List.forall_mem_cons.mpr ⟨hitem, ih _ _ _ hothers⟩
      · cases h
        exact List.forall_mem_singleton.mpr hitem
      · cases h

/-- The lines of an inline table have values that were read. -/
theorem inlineLines_give_distinct (count : Nat) :
    (inlineLines? value count).Gives DistinctLines := by
  induction count with
  | zero => rintro cs lines rest ⟨⟩
  | succ count ih =>
    intro cs lines rest h
    rw [inlineLines?] at h
    obtain ⟨⟨line, after⟩, hread, h⟩ := Option.bind_eq_some_iff.mp h
    have hline := line_gives_distinct hvalue _ _ _ hread
    dsimp only at h
    split at h
    · obtain ⟨⟨others, left⟩, hothers, h⟩ := Option.bind_eq_some_iff.mp h
      cases h
      exact List.forall_mem_cons.mpr ⟨hline, ih _ _ _ hothers⟩
    · cases h
      exact List.forall_mem_singleton.mpr hline
    · cases h

/-- An inline table has no key twice. -/
theorem inlineTable_gives_distinct : (inlineTable? value).Gives Value.Distinct := by
  intro cs table rest h
  unfold inlineTable? at h
  split at h
  · cases h
    exact .table List.nodup_nil (by simp)
  · obtain ⟨⟨lines, after⟩, hlines, h⟩ := Option.bind_eq_some_iff.mp h
    obtain ⟨t, ht, h⟩ := Option.bind_eq_some_iff.mp h
    cases h
    have hdistinct := inlineLines_give_distinct hvalue _ _ _ _ hlines
    exact (Draft.keepsDistinct_putLines hdistinct _ t Draft.distinct_new ht).toNode.toValue

end Values

/-- A value that is read has no key twice. -/
theorem value_gives_distinct (depth : Nat) : (value? depth).Gives Value.Distinct := by
  induction depth with
  | zero =>
    intro cs value rest h
    rw [value?] at h
    · exact scalar_gives_distinct _ _ _ h
    all_goals simp
  | succ depth ih =>
    intro cs value rest h
    unfold value? at h
    split at h
    · next hdepth =>
      cases hdepth
      obtain ⟨⟨items, after⟩, hitems, h⟩ := Option.map_eq_some_iff.mp h
      cases h
      exact .array (items_give_distinct ih _ _ _ _ hitems)
    · next hdepth =>
      cases hdepth
      exact inlineTable_gives_distinct ih _ _ _ h
    · exact scalar_gives_distinct _ _ _ h

/-- The lines of a document, before the first header and in each section, have values without a key
that stands twice. -/
theorem sections_give_distinct (count : Nat) {cs : List Char}
    {lines : List (List String × Value)} {later : List Section}
    (h : sections? count cs = some (lines, later)) :
    DistinctLines lines ∧ ∀ s ∈ later, DistinctLines s.lines := by
  induction count generalizing cs lines later with
  | zero => cases h
  | succ count ih =>
    rw [sections?] at h
    split at h
    · cases h
      simp
    · exact ih h
    · exact ih h
    · obtain ⟨_, -, h⟩ := Option.bind_eq_some_iff.mp h
      exact ih h
    · obtain ⟨⟨⟨kind, path⟩, after⟩, -, h⟩ := Option.bind_eq_some_iff.mp h
      obtain ⟨⟨own, others⟩, hrest, h⟩ := Option.bind_eq_some_iff.mp h
      cases h
      obtain ⟨hown, hothers⟩ := ih hrest
      exact ⟨by simp, List.forall_mem_cons.mpr ⟨hown, hothers⟩⟩
    · obtain ⟨⟨line, after⟩, hline, h⟩ := Option.bind_eq_some_iff.mp h
      obtain ⟨_, -, h⟩ := Option.bind_eq_some_iff.mp h
      obtain ⟨⟨own, others⟩, hrest, h⟩ := Option.bind_eq_some_iff.mp h
      cases h
      obtain ⟨hown, hothers⟩ := ih hrest
      have hfirst := line_gives_distinct (value_gives_distinct maxDepth) _ _ _ hline
      exact ⟨List.forall_mem_cons.mpr ⟨hfirst, hown⟩, hothers⟩

/-- No table of a document that is read has a key twice. -/
theorem distinct_of_read {s : String} {t : Table} (h : read? s = some t) : t.Distinct := by
  obtain ⟨⟨lines, later⟩, hsections, h⟩ := Option.bind_eq_some_iff.mp h
  obtain ⟨hlines, hlater⟩ := sections_give_distinct _ hsections
  obtain ⟨top, htop, h⟩ := Option.bind_eq_some_iff.mp h
  obtain ⟨root, hroot, h⟩ := Option.bind_eq_some_iff.mp h
  cases h
  have hdistinct := Draft.keepsDistinct_putLines hlines _ top Draft.distinct_new htop
  have hfinal := Draft.keepsDistinct_foldlM
    (fun s hs => Draft.keepsDistinct_putSection (hlater s hs)) top root hdistinct hroot
  exact Value.distinct_table_iff.mp hfinal.toNode.toValue

/-- Each item of an array with dates comes from an item without. -/
private theorem exists_source_of_item {items dated : List Value}
    (h : withDatesOfItems items = .ok dated) :
    ∀ item ∈ dated, ∃ source ∈ items, source.withDates = .ok item := by
  induction items generalizing dated with
  | nil =>
    cases h
    simp
  | cons source rest ih =>
    obtain ⟨item, hitem, h⟩ := bind_eq_ok h
    obtain ⟨others, hothers, h⟩ := bind_eq_ok h
    cases h
    refine List.forall_mem_cons.mpr ⟨⟨source, List.mem_cons_self, hitem⟩, fun other hother => ?_⟩
    obtain ⟨origin, horigin, hdated⟩ := ih hothers other hother
    exact ⟨origin, List.mem_cons_of_mem _ horigin, hdated⟩

/-- Dates take the place of values, so the keys of a table stay, and each member comes from one of
the same table. -/
private theorem keys_withDatesOfMembers {members dated : Table}
    (h : withDatesOfMembers members = .ok dated) :
    dated.map (·.1) = members.map (·.1) ∧
      ∀ member ∈ dated, ∃ source ∈ members, source.2.withDates = .ok member.2 := by
  induction members generalizing dated with
  | nil =>
    cases h
    simp
  | cons source rest ih =>
    obtain ⟨value, hvalue, h⟩ := bind_eq_ok h
    obtain ⟨others, hothers, h⟩ := bind_eq_ok h
    cases h
    obtain ⟨hkeys, hsources⟩ := ih hothers
    refine ⟨by rw [List.map_cons, List.map_cons, hkeys],
      List.forall_mem_cons.mpr ⟨⟨source, List.mem_cons_self, hvalue⟩, fun other hother => ?_⟩⟩
    obtain ⟨origin, horigin, hdated⟩ := hsources other hother
    exact ⟨origin, List.mem_cons_of_mem _ horigin, hdated⟩

/-- A table whose members keep their keys apart does so with dates in place. -/
private theorem Table.distinct_of_withDates {members dated : Table}
    (hkeys : (members.map (·.1)).Nodup)
    (hvalues : ∀ source ∈ members, ∀ value, source.2.withDates = .ok value → value.Distinct)
    (h : withDatesOfMembers members = .ok dated) : dated.Distinct := by
  obtain ⟨hsame, hsources⟩ := keys_withDatesOfMembers h
  refine ⟨hsame ▸ hkeys, fun member hmember => ?_⟩
  obtain ⟨source, hsource, hdated⟩ := hsources member hmember
  exact hvalues source hsource member.2 hdated

/-- A date has no keys. -/
private theorem distinct_of_dateOf {value dated : Value} (h : dateOf value = .ok dated) :
    dated.Distinct := by
  unfold dateOf at h
  split at h
  · next s =>
    cases hcheck : checkDate s <;> simp [hcheck, Except.map, Except.mapError] at h
    subst h
    exact .datetime
  · cases h

/-- Dates in place of tables make no key stand twice. -/
theorem Value.Distinct.withDates {value dated : Value} (hvalue : value.Distinct)
    (h : value.withDates = .ok dated) : dated.Distinct := by
  induction hvalue generalizing dated with
  | array hitems ih =>
    obtain ⟨items, hread, h⟩ := bind_eq_ok h
    cases h
    refine .array fun item hitem => ?_
    obtain ⟨source, hsource, hdated⟩ := exists_source_of_item hread item hitem
    exact ih source hsource hdated
  | @table members hkeys hvalues ih =>
    cases members with
    | nil =>
      cases h
      exact .table hkeys (by simp)
    | cons member rest =>
      obtain ⟨key, value⟩ := member
      rw [Value.withDates] at h
      split at h
      · exact distinct_of_dateOf h
      · obtain ⟨first, hfirst, h⟩ := bind_eq_ok h
        obtain ⟨others, hothers, h⟩ := bind_eq_ok h
        cases h
        refine Value.distinct_table_iff.mpr (Table.distinct_of_withDates hkeys
          (fun source hsource _ => ih source hsource) ?_)
        rw [withDatesOfMembers, hfirst, hothers]
        rfl
  | _ =>
    cases h
    constructor

/-- The table of profiles that a value gives has no key twice. -/
theorem distinct_of_profileTable {value : Value} {members : Table} (hvalue : value.Distinct)
    (h : profileTable value = .ok members) : members.Distinct := by
  unfold profileTable at h
  split at h
  · have hmembers := Value.distinct_table_iff.mp hvalue
    exact Table.distinct_of_withDates hmembers.keys
      (fun source hsource _ => (hmembers.values source hsource).withDates) h
  · cases h
    exact ⟨List.nodup_singleton _, List.forall_mem_singleton.mpr .string⟩
  · cases h

/-- The table of profiles that a document gives has no key twice. -/
theorem Table.Distinct.profiles {t members : Table} {active : Option String} (ht : t.Distinct)
    (h : activeAndProfiles t = .ok (active, members)) : members.Distinct := by
  have hempty : Table.Distinct [] := ⟨List.nodup_nil, by simp⟩
  refine of_foldlM_eq_ok (P := fun given => Table.Distinct given.2) (t := (active, members)) ?_
    hempty h
  rintro ⟨active, profiles⟩ hprofiles ⟨key, value⟩ hmember given hstep
  dsimp only at hstep
  split at hstep
  · obtain ⟨name, -, hstep⟩ := bind_eq_ok hstep
    cases hstep
    exact hprofiles
  · split at hstep
    · obtain ⟨table, htable, hstep⟩ := bind_eq_ok hstep
      cases hstep
      exact distinct_of_profileTable (ht.values _ hmember) htable
    · cases hstep
      exact hprofiles

end LayeredSettings.Toml
