import LayeredSettings.Template
import Mathlib.Data.List.Chain
import Mathlib.Data.List.TakeWhile

/-!
# Cutting a template

A template can be cut in one way only into placeholders and literal pieces in which no placeholder
stands. For a placeholder begins with the one dollar sign it has, so no two of them overlap. The
pieces that scanning gives are this cut, and taking the leftmost placeholder time and again meets
the same placeholders. So the references of a template and the template filled are about one cut.
-/

namespace LayeredSettings.Template

variable {cs before name after : List Char} {ps : List Piece}

/-- A letter or an underscore, of which the letters are those from A to Z in either case. -/
def BeginsName (c : Char) : Prop := 'A' ≤ c ∧ c ≤ 'Z' ∨ 'a' ≤ c ∧ c ≤ 'z' ∨ c = '_'

/-- A name begins with a letter or an underscore, and more of these and digits may follow. -/
inductive IsName : List Char → Prop
  | intro {first : Char} {rest : List Char} (hfirst : BeginsName first)
      (hrest : ∀ c ∈ rest, BeginsName c ∨ '0' ≤ c ∧ c ≤ '9') : IsName (first :: rest)

/-- What a piece looks like in a template. -/
def Piece.source : Piece → List Char
  | .literal cs => cs
  | .placeholder name => '$' :: '\x7b' :: (name ++ ['\x7d'])

/-- A placeholder stands in a text between what is before and what is after it. -/
structure Stands (cs before name after : List Char) : Prop where
  /-- It holds a name. -/
  isName : IsName name
  /-- The text is put together from the three parts. -/
  joined : before ++ (Piece.placeholder name).source ++ after = cs

/-- No placeholder stands in a text. -/
def Plain (cs : List Char) : Prop := ∀ before name after, ¬ Stands cs before name after

/-- A text is cut into pieces. -/
structure Cut (cs : List Char) (ps : List Piece) : Prop where
  /-- The pieces put together are the text. -/
  joined : ps.flatMap Piece.source = cs
  /-- Placeholders hold names. -/
  names : ∀ name, .placeholder name ∈ ps → IsName name
  /-- In a literal piece there is something, but no placeholder. -/
  plain : ∀ literal, .literal literal ∈ ps → literal ≠ [] ∧ Plain literal
  /-- No literal piece follows another. -/
  apart : ps.IsChain fun a b => ∀ l m, ¬ (a = .literal l ∧ b = .literal m)

/-- The placeholders of a text with what stands before each, and what stands after the last, when
the leftmost one is taken again and again. -/
inductive Visits : List Char → List (List Char × List Char) → List Char → Prop
  | last {cs : List Char} (hplain : Plain cs) : Visits cs [] cs
  | next {cs before name after last : List Char} {visited : List (List Char × List Char)}
      (hstands : Stands cs before name after)
      (hfirst : ∀ before' name' after', Stands cs before' name' after' →
        before.length ≤ before'.length)
      (hafter : Visits after visited last) : Visits cs ((before, name) :: visited) last

/-- The characters that may start a name. -/
theorem isNameStart_iff {c : Char} : isNameStart c = true ↔ BeginsName c := by
  have hupper : c.isUpper = decide ('A' ≤ c ∧ c ≤ 'Z') := rfl
  have hlower : c.isLower = (decide ('a' ≤ c) && decide (c ≤ 'z')) := rfl
  have hstart : isNameStart c = ((c.isUpper || c.isLower) || c == '_') := rfl
  rw [hstart, hupper, hlower]
  simp [BeginsName, or_assoc]

/-- The characters that may stand in a name. -/
theorem isNameChar_iff {c : Char} :
    isNameChar c = true ↔ BeginsName c ∨ '0' ≤ c ∧ c ≤ '9' := by
  have hdigit : c.isDigit = (decide ('0' ≤ c) && decide (c ≤ '9')) := rfl
  have hchar : isNameChar c = (isNameStart c || c.isDigit) := Bool.or_right_comm _ _ _
  rw [hchar, Bool.or_eq_true, isNameStart_iff, hdigit]
  simp

/-- The characters of a name may all stand in one. -/
theorem IsName.isNameChar (h : IsName name) : ∀ c ∈ name, isNameChar c = true := by
  obtain ⟨hfirst, hrest⟩ := h
  intro c hc
  rcases List.mem_cons.mp hc with rfl | hc
  · exact isNameChar_iff.mpr (Or.inl hfirst)
  · exact isNameChar_iff.mpr (hrest c hc)

/-- A placeholder is found at the start of a text exactly if one stands there. -/
theorem placeholder?_eq_some_iff :
    placeholder? cs = some (name, after) ↔ Stands cs [] name after := by
  constructor
  · intro h
    unfold placeholder? at h
    split at h
    · next rest =>
      split at h
      · next c tail after' htake hdrop =>
        split at h
        · next hstart =>
          cases h
          have hrest : rest = (c :: tail) ++ '\x7d' :: after := by
            rw [← htake, ← hdrop, List.takeWhile_append_dropWhile]
          refine ⟨⟨isNameStart_iff.mp hstart, fun other hother => isNameChar_iff.mp ?_⟩, ?_⟩
          · exact List.mem_takeWhile_imp (htake ▸ List.mem_cons_of_mem c hother)
          · simp [hrest, Piece.source]
        · cases h
      · cases h
    · cases h
  · rintro ⟨hname, rfl⟩
    have hchars := hname.isNameChar
    cases hname with
    | @intro first rest hfirst hrest =>
      have hclose : isNameChar '\x7d' = false := by decide
      have htake : (first :: (rest ++ '\x7d' :: after)).takeWhile isNameChar = first :: rest := by
        rw [← List.cons_append, List.takeWhile_append_of_pos hchars]
        simp [hclose]
      have hdrop : (first :: (rest ++ '\x7d' :: after)).dropWhile isNameChar = '\x7d' :: after := by
        rw [← List.cons_append, List.dropWhile_append_of_pos hchars]
        simp [hclose]
      simp [Piece.source, placeholder?, htake, hdrop, isNameStart_iff.mpr hfirst]

/-- The dollar sign of a placeholder is the one at its start. -/
theorem IsName.dollar_not_mem (h : IsName name) : '$' ∉ '\x7b' :: (name ++ ['\x7d']) := by
  intro hmem
  have hname : '$' ∈ name := by simpa using hmem
  exact absurd (h.isNameChar _ hname) (by decide)

/-- A placeholder of a text stays where it is when the text goes on. -/
theorem Stands.append (h : Stands cs before name after) (more : List Char) :
    Stands (cs ++ more) before name (after ++ more) :=
  ⟨h.isName, by rw [← List.append_assoc, h.joined]⟩

/-- A placeholder stands at the start of a text, or in what follows its first character. -/
theorem Stands.cases_cons {c : Char} (h : Stands (c :: cs) before name after) :
    before = [] ∧ placeholder? (c :: cs) = some (name, after) ∨
      ∃ rest, before = c :: rest ∧ Stands cs rest name after := by
  cases before with
  | nil => exact Or.inl ⟨rfl, placeholder?_eq_some_iff.mpr h⟩
  | cons b rest =>
    obtain ⟨hname, hjoined⟩ := h
    obtain ⟨rfl, htail⟩ := List.cons.inj hjoined
    exact Or.inr ⟨rest, rfl, hname, htail⟩

/-- No placeholder stands in an empty text. -/
theorem plain_nil : Plain [] := by
  rintro before name after ⟨-, hjoined⟩
  simp [Piece.source] at hjoined

/-- A character before a text in which no placeholder stands makes none, unless one starts at it
where the text goes on. -/
theorem Plain.cons {c : Char} (hplain : Plain cs) (more : List Char)
    (hnone : placeholder? (c :: (cs ++ more)) = none) : Plain (c :: cs) := by
  intro before name after hstands
  rcases hstands.cases_cons with ⟨rfl, -⟩ | ⟨rest, -, hrest⟩
  · have hfound := placeholder?_eq_some_iff.mpr (hstands.append more)
    rw [List.cons_append, hnone] at hfound
    cases hfound
  · exact hplain _ _ _ hrest

/-- No placeholder stands in the end of a text in which none stands. -/
theorem Plain.tail {c : Char} (h : Plain (c :: cs)) : Plain cs :=
  fun before name after hstands =>
    h (c :: before) name after ⟨hstands.isName, congrArg (c :: ·) hstands.joined⟩

/-- A character stands alone before pieces of which the first is not literal. -/
theorem addLiteral_of_head (hfirst : ∀ l, ps.head? ≠ some (.literal l)) (c : Char) :
    addLiteral c ps = .literal [c] :: ps := by
  rcases ps with _ | ⟨⟨l⟩ | ⟨name⟩, ps⟩
  · rfl
  · exact absurd rfl (hfirst l)
  · rfl

/-- What follows the first piece of a cut is cut into the other pieces. -/
theorem Cut.tail {p : Piece} (h : Cut cs (p :: ps)) : Cut (ps.flatMap Piece.source) ps where
  joined := rfl
  names name hmem := h.names name (List.mem_cons_of_mem p hmem)
  plain literal hmem := h.plain literal (List.mem_cons_of_mem p hmem)
  apart := h.apart.tail

/-- A placeholder goes before any cut. -/
theorem Cut.placeholder (hname : IsName name) (h : Cut cs ps) :
    Cut ((Piece.placeholder name).source ++ cs) (.placeholder name :: ps) where
  joined := by rw [List.flatMap_cons, h.joined]
  names other hmem := by
    rcases List.mem_cons.mp hmem with hsame | hmem
    · cases hsame
      exact hname
    · exact h.names other hmem
  plain literal hmem := h.plain literal (by simpa using hmem)
  apart := by
    refine List.isChain_cons.mpr ⟨fun b _ l m hboth => ?_, h.apart⟩
    cases hboth.1

/-- A literal piece goes before a cut that begins with none. -/
theorem Cut.literal {l : List Char} (hne : l ≠ []) (hplain : Plain l) (h : Cut cs ps)
    (hfirst : ∀ m, ps.head? ≠ some (.literal m)) : Cut (l ++ cs) (.literal l :: ps) where
  joined := by rw [List.flatMap_cons, h.joined]; rfl
  names name hmem := h.names name (by simpa using hmem)
  plain other hmem := by
    rcases List.mem_cons.mp hmem with hsame | hmem
    · cases hsame
      exact ⟨hne, hplain⟩
    · exact h.plain other hmem
  apart := by
    refine List.isChain_cons.mpr ⟨fun b hb l m hboth => ?_, h.apart⟩
    exact hfirst m (hboth.2 ▸ hb)

/-- A cut that begins with a literal piece. -/
theorem Cut.exists_literal {l : List Char} (h : Cut cs (.literal l :: ps)) :
    ∃ c rest, l = c :: rest ∧ Plain l ∧ ∀ m, ps.head? ≠ some (.literal m) := by
  obtain ⟨hne, hplain⟩ := h.plain l List.mem_cons_self
  obtain ⟨c, rest, rfl⟩ := List.exists_cons_of_ne_nil hne
  refine ⟨c, rest, rfl, hplain, fun m hm => ?_⟩
  exact (List.isChain_cons.mp h.apart).1 _ hm _ m ⟨rfl, rfl⟩

/-- A character that no placeholder starts at goes into the literal piece before a cut. -/
theorem Cut.addLiteral {c : Char} (hnone : placeholder? (c :: cs) = none) (h : Cut cs ps) :
    Cut (c :: cs) (addLiteral c ps) := by
  rcases ps with _ | ⟨⟨l⟩ | ⟨name⟩, ps⟩
  · exact .literal (by simp) (plain_nil.cons cs hnone) h (by simp)
  · obtain ⟨-, -, -, hplain, hfirst⟩ := h.exists_literal
    have hcs : cs = l ++ ps.flatMap Piece.source := h.joined.symm
    have hnext := h.tail.literal (List.cons_ne_nil c l) (hplain.cons _ (hcs ▸ hnone)) hfirst
    rwa [List.cons_append, ← hcs] at hnext
  · exact .literal (by simp) (plain_nil.cons cs hnone) h (by simp)

/-- A placeholder at the start of a text is its first piece. -/
theorem pieces_of_some (h : placeholder? cs = some (name, after)) :
    pieces cs = .placeholder name :: pieces after := by
  rw [pieces]
  split
  · next found => cases found.symm.trans h; rfl
  · next hnone => cases hnone.symm.trans h

/-- A character that no placeholder starts at is literal. -/
theorem pieces_cons_of_none {c : Char} (h : placeholder? (c :: cs) = none) :
    pieces (c :: cs) = addLiteral c (pieces cs) := by
  rw [pieces]
  split
  · next found => cases found.symm.trans h
  · rfl

/-- An empty text has no pieces. -/
theorem pieces_nil : pieces [] = [] := by
  rw [pieces]
  split
  · next found => cases found
  · rfl

/-- The pieces of a text are a cut of it. -/
theorem cut_pieces (cs : List Char) : Cut cs (pieces cs) := by
  induction cs using pieces.induct with
  | case1 cs name after hfound ih =>
    rw [pieces_of_some hfound]
    obtain ⟨hname, rfl⟩ := placeholder?_eq_some_iff.mp hfound
    exact ih.placeholder hname
  | case2 hnone =>
    rw [pieces_nil]
    exact ⟨rfl, by simp, by simp, .nil⟩
  | case3 c rest hnone ih =>
    rw [pieces_cons_of_none hnone]
    exact ih.addLiteral hnone

/-- A cut of a text at whose start a placeholder stands does not begin with a literal piece. -/
theorem Cut.head_ne_literal (h : Cut cs ps) (hstands : Stands cs [] name after) (l : List Char) :
    ps.head? ≠ some (.literal l) := by
  intro hhead
  obtain ⟨qs, rfl⟩ := List.head?_eq_some_iff.mp hhead
  obtain ⟨c, rest, rfl, hplain, hfirst⟩ := h.exists_literal
  obtain ⟨hname, rfl⟩ := hstands
  obtain ⟨rfl, hrest⟩ := List.cons.inj h.joined
  change rest ++ qs.flatMap Piece.source = '\x7b' :: (name ++ ['\x7d']) ++ after at hrest
  -- Either the placeholder ends within the literal piece, or another begins within the placeholder.
  have hends : ∀ more, rest ≠ '\x7b' :: (name ++ ['\x7d']) ++ more := by
    rintro more rfl
    exact hplain [] name more ⟨hname, rfl⟩
  rcases List.append_eq_append_iff.mp hrest with ⟨inside, hinside, hothers⟩ | ⟨more, hmore, -⟩
  · rcases inside with _ | ⟨x, inside⟩
    · exact hends [] (by simpa using hinside.symm)
    · have hdollar : x = '$' := by
        rcases qs with _ | ⟨⟨m⟩ | ⟨other⟩, qs⟩
        · cases hothers
        · exact absurd rfl (hfirst m)
        · exact (List.cons.inj hothers).1.symm
      refine hname.dollar_not_mem ?_
      rw [hinside, hdollar]
      exact List.mem_append_right rest List.mem_cons_self
  · exact hends more hmore

/-- A text has no other cut than its pieces. -/
theorem Cut.eq_pieces (h : Cut cs ps) : ps = pieces cs := by
  induction cs using pieces.induct generalizing ps with
  | case1 cs name after hfound ih =>
    rw [pieces_of_some hfound]
    have hstands := placeholder?_eq_some_iff.mp hfound
    rcases ps with _ | ⟨⟨l⟩ | ⟨other⟩, ps⟩
    · obtain rfl : cs = [] := h.joined.symm
      cases hfound
    · exact absurd rfl (h.head_ne_literal hstands l)
    · have hother : Stands cs [] other (ps.flatMap Piece.source) :=
        ⟨h.names other List.mem_cons_self, h.joined⟩
      cases hfound.symm.trans (placeholder?_eq_some_iff.mpr hother)
      rw [← ih h.tail]
  | case2 hnone =>
    rw [pieces_nil]
    rcases ps with _ | ⟨⟨l⟩ | ⟨other⟩, ps⟩
    · rfl
    · obtain ⟨c, rest, rfl, -⟩ := h.exists_literal
      cases h.joined
    · cases h.joined
  | case3 c rest hnone ih =>
    rw [pieces_cons_of_none hnone]
    rcases ps with _ | ⟨⟨l⟩ | ⟨other⟩, ps⟩
    · cases h.joined
    · obtain ⟨c', l, rfl, hplain, hfirst⟩ := h.exists_literal
      obtain rfl : c' = c := (List.cons.inj h.joined).1
      obtain rfl : l ++ ps.flatMap Piece.source = rest := (List.cons.inj h.joined).2
      by_cases hl : l = []
      · subst hl
        rw [← ih h.tail, addLiteral_of_head hfirst]
      · rw [← ih (h.tail.literal hl hplain.tail hfirst)]
        rfl
    · have hother : Stands (c :: rest) [] other (ps.flatMap Piece.source) :=
        ⟨h.names other List.mem_cons_self, h.joined⟩
      cases hnone.symm.trans (placeholder?_eq_some_iff.mpr hother)

/-- A literal piece, where there is anything literal. -/
def literal? (cs : List Char) : List Piece := if cs = [] then [] else [.literal cs]

/-- What is literal, if anything is, goes before a cut that begins with no literal piece. -/
theorem Cut.literal? {l : List Char} (hplain : Plain l) (h : Cut cs ps)
    (hfirst : ∀ m, ps.head? ≠ some (.literal m)) : Cut (l ++ cs) (literal? l ++ ps) := by
  unfold Template.literal?
  split
  · next hempty =>
    subst hempty
    exact h
  · next hne => exact h.literal hne hplain hfirst

/-- The pieces of a text of which some placeholders are visited. -/
def visitedPieces (last : List Char) : List (List Char × List Char) → List Piece
  | [] => literal? last
  | (before, name) :: rest => literal? before ++ .placeholder name :: visitedPieces last rest

section Visits

variable {visited : List (List Char × List Char)} {last : List Char}

/-- Of every text the placeholders can be visited. -/
theorem exists_visits (cs : List Char) : ∃ visited last, Visits cs visited last := by
  induction cs using pieces.induct with
  | case1 cs name after hfound ih =>
    obtain ⟨visited, last, hafter⟩ := ih
    exact ⟨_, _, .next (placeholder?_eq_some_iff.mp hfound) (fun _ _ _ _ => Nat.zero_le _) hafter⟩
  | case2 hnone => exact ⟨_, _, .last plain_nil⟩
  | case3 c rest hnone ih =>
    obtain ⟨visited, last, hrest⟩ := ih
    cases hrest with
    | last hplain => exact ⟨_, _, .last (hplain.cons [] (by rwa [List.append_nil]))⟩
    | @next _ before name after _ visited hstands hfirst hafter =>
      have hnext : Stands (c :: rest) (c :: before) name after :=
        ⟨hstands.isName, congrArg (c :: ·) hstands.joined⟩
      refine ⟨_, _, .next hnext (fun before' name' after' hother => ?_) hafter⟩
      rcases hother.cases_cons with ⟨-, hfound⟩ | ⟨below, rfl, hbelow⟩
      · cases hnone.symm.trans hfound
      · exact Nat.succ_le_succ (hfirst _ _ _ hbelow)

/-- No placeholder stands before the leftmost one. -/
theorem Stands.plain_before (hstands : Stands cs before name after)
    (hfirst : ∀ before' name' after', Stands cs before' name' after' →
      before.length ≤ before'.length) : Plain before := by
  intro before' name' after' hother
  have hlonger := hfirst before' name' _
    (hstands.joined ▸ (hother.append (Piece.placeholder name).source).append after)
  have hlength := congrArg List.length hother.joined
  simp only [Piece.source, List.length_append, List.length_cons] at hlength
  omega

/-- The placeholders that are visited, and what is literal between them, are a cut of the text. -/
theorem Visits.cut (h : Visits cs visited last) : Cut cs (visitedPieces last visited) := by
  induction h with
  | @last cs hplain =>
    have hnothing : Cut [] [] := ⟨rfl, by simp, by simp, .nil⟩
    simpa [visitedPieces] using hnothing.literal? hplain (by simp)
  | next hstands hfirst _ ih =>
    have hnext := (ih.placeholder hstands.isName).literal? (hstands.plain_before hfirst) (by simp)
    rwa [← List.append_assoc, hstands.joined] at hnext

/-- The names in visited placeholders. -/
theorem filterMap_visitedPieces : (visitedPieces last visited).filterMap Piece.reference? =
    visited.map fun (_, name) => String.ofList name := by
  have hliteral : ∀ l, (literal? l).filterMap Piece.reference? = [] := by
    intro l
    unfold literal?
    split <;> rfl
  induction visited with
  | nil => exact hliteral last
  | cons first rest ih =>
    rw [visitedPieces, List.filterMap_append, hliteral, List.nil_append, List.map_cons, ← ih]
    rfl

/-- What visited placeholders and the literal pieces between them become. -/
theorem flatMap_visitedPieces (assign : String → String) :
    (visitedPieces last visited).flatMap (Piece.fill assign) =
      (visited.flatMap fun (before, name) => before ++ (assign (String.ofList name)).toList) ++
        last := by
  have hliteral : ∀ l, (literal? l).flatMap (Piece.fill assign) = l := by
    intro l
    unfold literal?
    split
    · next hempty => exact hempty.symm
    · exact List.append_nil l
  induction visited with
  | nil => exact hliteral last
  | cons first rest ih =>
    rw [visitedPieces, List.flatMap_append, hliteral, List.flatMap_cons, ih, List.flatMap_cons,
      Piece.fill, List.append_assoc, List.append_assoc]

end Visits

/-- There is one way to cut a template into placeholders and literal pieces without placeholders.
The references are the names in its placeholders, in order, and filling puts the assigned texts in
their places and looks at nothing twice. The placeholders of this cut are those that are met when
the leftmost is taken time and again. -/
theorem references_and_fill_share_cut (template : String) :
    (∃! ps, Cut template.toList ps) ∧
    (∀ ps, Cut template.toList ps → references template = ps.filterMap Piece.reference? ∧
      ∀ assign, (fill assign template).toList = ps.flatMap (Piece.fill assign)) ∧
    (∃ visited last, Visits template.toList visited last) ∧
    ∀ visited last, Visits template.toList visited last →
      references template = visited.map (fun (_, name) => String.ofList name) ∧
      ∀ assign, (fill assign template).toList =
        (visited.flatMap fun (before, name) => before ++ (assign (String.ofList name)).toList) ++
          last := by
  have hcut : ∀ ps, Cut template.toList ps → references template = ps.filterMap Piece.reference? ∧
      ∀ assign, (fill assign template).toList = ps.flatMap (Piece.fill assign) := by
    intro ps h
    rw [h.eq_pieces]
    exact ⟨rfl, fun assign => String.toList_ofList⟩
  refine ⟨⟨_, cut_pieces _, fun ps h => h.eq_pieces⟩, hcut, exists_visits _, ?_⟩
  intro visited last h
  obtain ⟨hreferences, hfill⟩ := hcut _ h.cut
  exact ⟨hreferences.trans filterMap_visitedPieces,
    fun assign => (hfill assign).trans (flatMap_visitedPieces assign)⟩

/-- Two placeholders among near misses: a dollar sign too many, a placeholder in another's place, a
name that begins with a digit, and one without an end. -/
def nearMisses : String := "$$\x7bA\x7d $\x7b$\x7bB\x7d\x7d $\x7b1\x7d $\x7bC"

/-- Near misses are literal, and what is filled in makes no placeholder. -/
theorem references_and_fill_share_cut_of_nearMisses :
    let ps : List Piece := [.literal ['$'], .placeholder ['A'], .literal [' ', '$', '\x7b'],
      .placeholder ['B'], .literal "\x7d $\x7b1\x7d $\x7bC".toList]
    let assign : String → String := fun name => if name = "A" then "\x7bB\x7d" else "A"
    Cut nearMisses.toList ps ∧ references nearMisses = ["A", "B"] ∧
      (fill assign nearMisses).toList = "$\x7bB\x7d $\x7bA\x7d $\x7b1\x7d $\x7bC".toList ∧
      ∃ visited last, Visits nearMisses.toList visited last ∧
        visited.map (fun (_, name) => String.ofList name) = ["A", "B"] := by
  intro ps assign
  have hpieces : pieces nearMisses.toList = ps := by decide +kernel
  have hcut : Cut nearMisses.toList ps := hpieces ▸ cut_pieces _
  obtain ⟨-, hshared, ⟨visited, last, h⟩, hvisited⟩ := references_and_fill_share_cut nearMisses
  obtain ⟨hreferences, hfill⟩ := hshared ps hcut
  obtain ⟨hnames, -⟩ := hvisited visited last h
  exact ⟨hcut, hreferences, (hfill assign).trans (by decide +kernel), visited, last, h,
    hnames.symm.trans hreferences⟩

end LayeredSettings.Template
