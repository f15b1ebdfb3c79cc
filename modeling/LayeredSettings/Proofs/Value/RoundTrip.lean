import LayeredSettings.Proofs.Number.Text
import LayeredSettings.Value.Cast

/-!
# Casting the text of a value

What a cast makes of a raw value is a fixed point of it: the text of the value and its raw form are
cast to the same value again. Numbers are read back from their digits, a member of an enumeration is
the first one that its own text names, and a path that was put below the home directory has no home
directory in front any more.
-/

namespace LayeredSettings

/-- The home directory, if there is one, is named by a text that has no home directory in front. -/
def Home.IsExpanded (home : Home) : Prop :=
  ∀ directory ∈ home, directory.text ≠ "" ∧ directory.text ≠ "~" ∧
    Text.startsWith "~/" directory.text = false

namespace Home

/-- The text stands for the home directory or for a place below it. -/
def IsAbbreviation (cs : List Char) : Prop := cs = ['~'] ∨ ['~', '/'] <+: cs

/-- A text that is no abbreviation is a path as it stands. -/
theorem expand_of_not_isAbbreviation {home : Home} {text : String}
    (htext : ¬ IsAbbreviation text.toList) : home.expand text = ⟨text⟩ := by
  unfold expand
  split
  · next heq => exact absurd (Or.inl heq) htext
  · next rest heq => exact absurd (Or.inr ⟨rest, heq.symm⟩) htext
  · rfl

/-- What is put behind a text that is no abbreviation does not make it one. -/
theorem not_isAbbreviation_append {front : List Char} (hne : front ≠ [])
    (hfront : ¬ IsAbbreviation front) (back : List Char) : ¬ IsAbbreviation (front ++ back) := by
  rintro (hword | hstarts)
  · rcases List.append_eq_singleton_iff.mp hword with ⟨hnil, -⟩ | ⟨hword, -⟩
    · exact hne hnil
    · exact hfront (Or.inl hword)
  · match front with
    | [] => exact hne rfl
    | [c] =>
      obtain ⟨hc, -⟩ := List.cons_prefix_cons.mp hstarts
      exact hfront (Or.inl (hc ▸ rfl))
    | c :: d :: rest =>
      obtain ⟨hc, hbehind⟩ := List.cons_prefix_cons.mp hstarts
      obtain ⟨hd, -⟩ := List.cons_prefix_cons.mp hbehind
      exact hfront (Or.inr ⟨rest, by rw [hc, hd]; rfl⟩)

/-- The home directory itself is no abbreviation. -/
theorem IsExpanded.not_isAbbreviation {home : Home} {directory : Path} (hhome : home.IsExpanded)
    (hmem : directory ∈ home) : ¬ IsAbbreviation directory.text.toList := by
  obtain ⟨-, hword, hstart⟩ := hhome directory hmem
  rintro (h | h)
  · exact hword (String.toList_injective h)
  · have hstarts : Text.startsWith "~/" directory.text = true := List.isPrefixOf_iff_prefix.mpr h
    rw [hstarts] at hstart
    exact Bool.noConfusion hstart

/-- A place below the home directory has no home directory in front. -/
theorem IsExpanded.not_isAbbreviation_join {home : Home} {directory : Path}
    (hhome : home.IsExpanded) (hmem : directory ∈ home) (below : String) :
    ¬ IsAbbreviation (directory.join below).text.toList := by
  have hplain := hhome.not_isAbbreviation hmem
  have hne : directory.text.toList ≠ [] := fun hnil =>
    (hhome directory hmem).1 (String.toList_injective hnil)
  unfold Path.join
  split
  · next hroot =>
    rintro (h | ⟨rest, h⟩)
    · rw [h] at hroot
      exact absurd hroot (by decide)
    · rw [← h, List.cons_append, List.head?_cons] at hroot
      exact absurd hroot (by decide)
  · split
    · rw [String.toList_append]
      exact not_isAbbreviation_append hne hplain _
    · rw [String.toList_append, String.toList_append, List.append_assoc]
      exact not_isAbbreviation_append hne hplain _

/-- An expanded path has nothing left to expand. -/
theorem IsExpanded.not_isAbbreviation_expand {home : Home} (hhome : home.IsExpanded)
    (hmem : home.isSome) (text : String) :
    ¬ IsAbbreviation (home.expand text).text.toList := by
  obtain ⟨directory, rfl⟩ := Option.isSome_iff_exists.mp hmem
  unfold expand
  split
  · next hdirectory _ => exact hhome.not_isAbbreviation hdirectory
  · next hdirectory _ => exact hhome.not_isAbbreviation_join hdirectory _
  · next hword hbelow =>
    rintro (h | ⟨rest, h⟩)
    · exact hword _ rfl h
    · exact hbelow _ rest rfl h.symm

/-- Expanding a path again changes nothing. -/
theorem IsExpanded.expand_expand {home : Home} (hhome : home.IsExpanded) (text : String) :
    home.expand (home.expand text).text = home.expand text := by
  cases home with
  | none => rfl
  | some directory =>
    exact expand_of_not_isAbbreviation (hhome.not_isAbbreviation_expand rfl text)

end Home

/-- What a cast makes, kind by kind. -/
inductive Kind.Makes (home : Home) (raw : Raw) : Kind → Value → Prop where
  | boolean {b : Bool} (h : raw.toBoolean? = some b) : Makes home raw .boolean (.boolean b)
  | integer {i : Int64} (h : raw.toInteger? = some i) : Makes home raw .integer (.integer i)
  | float {x : Binary64} (h : raw.toFloat? = some x) : Makes home raw .float (.float x)
  | string : Makes home raw .string (.string raw.toText)
  | path : Makes home raw .path (.path (home.expand raw.toText))
  | secret : Makes home raw .secret (.secret raw.toText)
  | enumeration {members : List String} {member : String}
      (h : memberOf? members raw.toText = some member) :
      Makes home raw (.enumeration members) (.enumeration member)

/-- A cast succeeds with exactly the value that the kind makes. -/
theorem Kind.cast_eq_ok_iff {home : Home} {kind : Kind} {raw : Raw} {value : Value} :
    kind.cast home raw = .ok value ↔ kind.Makes home raw value := by
  constructor
  · intro hcast
    cases kind with
    | boolean =>
      cases hread : raw.toBoolean? with
      | none => simp [cast, hread] at hcast
      | some b =>
        simp only [cast, hread, Option.map_some, Option.elim_some, Except.ok.injEq] at hcast
        exact hcast ▸ .boolean hread
    | integer =>
      cases hread : raw.toInteger? with
      | none => simp [cast, hread] at hcast
      | some i =>
        simp only [cast, hread, Option.map_some, Option.elim_some, Except.ok.injEq] at hcast
        exact hcast ▸ .integer hread
    | float =>
      cases hread : raw.toFloat? with
      | none => simp [cast, hread] at hcast
      | some x =>
        simp only [cast, hread, Option.map_some, Option.elim_some, Except.ok.injEq] at hcast
        exact hcast ▸ .float hread
    | string => exact Except.ok.inj hcast ▸ .string
    | path => exact Except.ok.inj hcast ▸ .path
    | secret => exact Except.ok.inj hcast ▸ .secret
    | enumeration members =>
      cases hread : memberOf? members raw.toText with
      | none => simp [cast, hread] at hcast
      | some member =>
        simp only [cast, hread, Option.map_some, Option.elim_some, Except.ok.injEq] at hcast
        exact hcast ▸ .enumeration hread
  · rintro (hread | hread | hread | - | - | - | hread)
    all_goals simp [cast, *]

/-- The word for a truth value stands for it. -/
theorem truthOfWord?_truthText (b : Bool) : truthOfWord? (truthText b) = some b := by
  cases b <;> decide

/-- An integer of 64 bits is in range. -/
theorem int64?_toInt (i : Int64) : int64? i.toInt = some i := by
  have hrange : Int64.minValue.toInt ≤ i.toInt ∧ i.toInt ≤ Int64.maxValue.toInt :=
    ⟨Int64.le_iff_toInt_le.mp (Int64.minValue_le i), Int64.le_iff_toInt_le.mp (Int64.le_maxValue i)⟩
  unfold int64?
  rw [if_pos hrange, Int64.ofInt_toInt]

/-- There are no blanks in the text of an integer. -/
theorem isBlank_of_mem_integerText {i : ℤ} :
    ∀ c ∈ (integerText i).toList, Text.isBlank c = false := by
  unfold integerText
  rw [String.toList_ofList]
  intro c hc
  exact (List.mem_append.mp hc).elim (Binary64.isBlank_of_mem_signText c)
    (Decimal.isBlank_of_mem_digitsOf c)

/-- The digits of an integer, with a sign in front if it is negative, are read as the integer. -/
theorem readInt64?_integerText (i : Int64) :
    readInt64? (Text.trimBlanks (integerText i.toInt).toList) = some i := by
  have hdigits := Decimal.isDigit_of_mem_digitsOf (n := i.toInt.natAbs)
  obtain ⟨c, cs, hform⟩ := List.exists_cons_of_ne_nil (Decimal.digitsOf_ne_nil i.toInt.natAbs)
  have hsplit : Decimal.splitSign
      (Binary64.signText (decide (i.toInt < 0)) ++ Decimal.digitsOf i.toInt.natAbs) =
        (decide (i.toInt < 0), Decimal.digitsOf i.toInt.natAbs) := by
    rw [hform]
    cases decide (i.toInt < 0) with
    | true => rfl
    | false =>
      exact Decimal.splitSign_of_isDigit (hdigits c (hform ▸ List.mem_cons_self)) cs
  have hvalue : (if decide (i.toInt < 0) then -(i.toInt.natAbs : ℤ) else i.toInt.natAbs) =
      i.toInt := by
    split
    · next hneg =>
      have := of_decide_eq_true hneg
      omega
    · next hneg =>
      have := of_decide_eq_false (Bool.eq_false_iff.mpr hneg)
      omega
  have hread : ((Decimal.digitsOf i.toInt.natAbs).isEmpty ||
      !(Decimal.digitsOf i.toInt.natAbs).all Char.isDigit) = false := by
    rw [Bool.or_eq_false_iff, List.isEmpty_eq_false_iff, Bool.not_eq_false', List.all_eq_true]
    exact ⟨Decimal.digitsOf_ne_nil _, hdigits⟩
  rw [Text.trimBlanks_of_forall isBlank_of_mem_integerText]
  unfold integerText readInt64?
  rw [String.toList_ofList, hsplit]
  dsimp only
  rw [hread, if_neg Bool.false_ne_true, Decimal.ofDigits_digitsOf, hvalue, int64?_toInt]

/-- The text of a finite number is read as the number. -/
theorem toFloat?_floatText {x : Binary64} (hx : x.isFinite = true) :
    (Raw.text (floatText x)).toFloat? = some x := by
  cases x with
  | nan => exact Bool.noConfusion hx
  | infinite negative => exact Bool.noConfusion hx
  | finite negative magnitude =>
    unfold Raw.toFloat? floatText
    dsimp only
    rw [Text.trimBlanks_of_forall Binary64.isBlank_of_mem_text, Binary64.read?_text]
    rfl

/-- A member that was found is the first one that its own text names. -/
theorem memberOf?_member {members : List String} {s member : String}
    (hfound : memberOf? members s = some member) : memberOf? members member = some member := by
  have hsame : member.toList.map Char.toLower = (Text.trimBlanks s.toList).map Char.toLower := by
    have hcase := List.find?_some hfound
    unfold Text.sameIgnoringCase Text.trim at hcase
    rw [String.toList_ofList] at hcase
    exact eq_of_beq hcase
  have htrim : (Text.trimBlanks member.toList).map Char.toLower =
      (Text.trimBlanks s.toList).map Char.toLower := by
    rw [← Text.trimBlanks_map_toLower, hsame, Text.trimBlanks_map_toLower,
      Text.trimBlanks_trimBlanks]
  have htest : ∀ m, Text.sameIgnoringCase m (Text.trim member) =
      Text.sameIgnoringCase m (Text.trim s) := by
    intro m
    unfold Text.sameIgnoringCase Text.trim
    rw [String.toList_ofList, String.toList_ofList, htrim]
  unfold memberOf? at hfound ⊢
  rwa [funext htest]

namespace Kind

variable {home : Home} {kind : Kind} {raw : Raw} {value : Value}

/-- What a cast makes is of the kind. -/
theorem Makes.accepts (h : kind.Makes home raw value) : kind.accepts value = true := by
  cases h with
  | enumeration hfound => exact List.contains_iff_mem.mpr (List.mem_of_find?_eq_some hfound)
  | _ => rfl

/-- The text of a value is cast to the value. -/
theorem Makes.render (hhome : home.IsExpanded) (h : kind.Makes home raw value)
    (hfinite : ∀ x, value = .float x → x.isFinite = true) :
    kind.Makes home (.text value.render) value := by
  cases h with
  | @boolean b => exact .boolean (truthOfWord?_truthText b)
  | @integer i => exact .integer (readInt64?_integerText i)
  | @float x =>
    have hx : x.isFinite = true := hfinite x rfl
    exact .float (toFloat?_floatText hx)
  | string => exact .string
  | path =>
    have hpath := @Makes.path home (.text (home.expand raw.toText).text)
    rwa [Raw.toText, hhome.expand_expand] at hpath
  | secret => exact .secret
  | enumeration hfound => exact .enumeration (memberOf?_member hfound)

/-- The raw form of a value is cast to the value. -/
theorem Makes.toRaw (hhome : home.IsExpanded) (h : kind.Makes home raw value)
    (hfinite : ∀ x, value = .float x → x.isFinite = true) :
    kind.Makes home value.toRaw value := by
  have hrender := h.render hhome hfinite
  cases h with
  | boolean => exact .boolean rfl
  | integer => exact .integer rfl
  | float => exact .float rfl
  | string => exact hrender
  | path => exact hrender
  | secret => exact hrender
  | enumeration => exact hrender

end Kind

/-- A value equals itself unless it is no number. -/
theorem Value.same_self {value : Value} (hfinite : ∀ x, value = .float x → x.isFinite = true) :
    value.same value = true := by
  cases value with
  | float x =>
    cases x with
    | nan => exact hfinite _ rfl
    | infinite negative => exact beq_self_eq_true _
    | finite negative magnitude => exact beq_self_eq_true _
  | path p => exact beq_self_eq_true _
  | _ => exact beq_self_eq_true _

/-- A cast undoes the writing of a value: what a cast made is of the kind, and its text and its raw
form are cast by the same kind to the value itself, for every kind and every raw value. -/
theorem Kind.cast_undoes_render {home : Home} {kind : Kind} {raw : Raw} {value : Value}
    (hhome : home.IsExpanded) (hcast : kind.cast home raw = .ok value)
    (hfinite : ∀ x, value = .float x → x.isFinite = true) :
    kind.accepts value = true ∧ kind.cast home (.text value.render) = .ok value ∧
      kind.cast home value.toRaw = .ok value ∧ value.same value = true := by
  have hmakes := cast_eq_ok_iff.mp hcast
  exact ⟨hmakes.accepts, cast_eq_ok_iff.mpr (hmakes.render hhome hfinite),
    cast_eq_ok_iff.mpr (hmakes.toRaw hhome hfinite), Value.same_self hfinite⟩

/-- A small negative number with blanks around it is shown with a power of ten. -/
theorem Kind.cast_undoes_render_of_smallNumber :
    let home : Home := some ⟨"/home/ada"⟩
    let x : Binary64 := Binary64.ofDecimal ⟨true, 12, -8⟩
    home.IsExpanded ∧ Kind.float.cast home (.text " -.12e-6 ") = .ok (.float x) ∧
      (Value.float x).render = "-1.2e-7" ∧ Kind.float.cast home (.text "-1.2e-7") = .ok (.float x) ∧
      Kind.float.cast home (.float x) = .ok (.float x) ∧
      (Value.float x).same (.float x) = true := by
  intro home x
  have hhome : home.IsExpanded := by
    intro directory hmem
    obtain rfl : (⟨"/home/ada"⟩ : Path) = directory := Option.some.inj hmem
    decide
  have hcast : Kind.float.cast home (.text " -.12e-6 ") = .ok (.float x) := by decide +kernel
  have hfinite : x.isFinite = true := by decide +kernel
  have hrender : (Value.float x).render = "-1.2e-7" := by decide +kernel
  obtain ⟨-, htext, hraw, hsame⟩ := cast_undoes_render hhome hcast
    (fun y hy => Value.float.inj hy ▸ hfinite)
  exact ⟨hhome, hcast, hrender, hrender ▸ htext, hraw, hsame⟩

end LayeredSettings
