import LayeredSettings.Path.Parts
import Mathlib.Data.List.Basic

/-!
# The last piece of a path

A path names a file if its last piece is a name. That name is then the file name of the path, and
another path with a name put in its place ends in that name.
-/

namespace LayeredSettings.Path

variable {p : Path} {last : List Char}

/-- The piece is a name: it is not empty and stands for no step that stays or leads up. -/
structure Names (piece : List Char) : Prop where
  /-- The piece is not empty. -/
  ne_nil : piece ≠ []
  /-- The piece does not stay where it is. -/
  ne_here : piece ≠ ['.']
  /-- The piece does not lead up. -/
  ne_up : piece ≠ ['.', '.']

/-- There is no slash in the pieces between slashes. -/
theorem slash_not_mem_pieces {cs piece : List Char} (hmem : piece ∈ pieces cs) : '/' ∉ piece := by
  unfold pieces at hmem
  induction cs generalizing piece with
  | nil => simp_all
  | cons c rest ih =>
    rw [List.splitOn_cons_eq_if_modifyHead] at hmem
    split at hmem
    · rcases List.mem_cons.mp hmem with rfl | hmem
      · exact List.not_mem_nil
      · exact ih hmem
    · next hc =>
      obtain ⟨first, others, hsplit⟩ := List.exists_cons_of_ne_nil (List.splitOn_ne_nil '/' rest)
      rw [hsplit] at hmem ih
      rcases List.mem_cons.mp hmem with rfl | hmem
      · have hfirst := ih List.mem_cons_self
        simp only [List.mem_cons, not_or]
        exact ⟨fun h => hc (by simp [← h]), hfirst⟩
      · exact ih (List.mem_cons_of_mem _ hmem)

/-- What stands after the last slash of a text is its last piece. -/
theorem getLast?_pieces_append (before : List Char) {name : List Char} (hname : '/' ∉ name) :
    (pieces (before ++ '/' :: name)).getLast? = some name := by
  unfold pieces
  rw [List.splitOn_append_cons_self, List.splitOn_eq_singleton hname, List.getLast?_append]
  rfl

/-- A name put below a path is the last piece. -/
theorem getLast?_pieces_join (p : Path) {name : String} (hname : '/' ∉ name.toList) :
    (pieces (p.join name).text.toList).getLast? = some name.toList := by
  have hrelative : name.toList.head? ≠ some '/' := fun h => hname (List.mem_of_head? h)
  unfold join
  rw [if_neg hrelative]
  split
  · next hend =>
    rw [String.toList_append]
    rcases hend with hempty | hslash
    · rw [hempty, List.nil_append, pieces, List.splitOn_eq_singleton hname]
      rfl
    · obtain ⟨before, hbefore⟩ := List.getLast?_eq_some_iff.mp hslash
      rw [hbefore, List.append_assoc]
      exact getLast?_pieces_append before hname
  · have h := getLast?_pieces_append p.text.toList hname
    simpa using h

/-- A piece that is a name is not cut off at the end. -/
private theorem trimPieces_of_names {kept : ℕ} {before : List (List Char)} (hlast : Names last)
    (hkept : kept ≤ before.length) : trimPieces kept (before ++ [last]) = before ++ [last] := by
  have hstays : ¬ (last = [] ∨ last = ['.']) := not_or.mpr ⟨hlast.ne_nil, hlast.ne_here⟩
  unfold trimPieces
  rw [List.drop_append_of_le_length hkept, List.reverse_append, List.reverse_singleton,
    List.singleton_append, List.dropWhile_cons_of_neg (by simpa using hstays), List.reverse_cons,
    List.reverse_reverse, ← List.drop_append_of_le_length hkept, List.take_append_drop]

/-- A path whose last piece is a name ends in that name. -/
theorem fileName?_of_names (hlast : (pieces p.text.toList).getLast? = some last)
    (hname : Names last) : p.fileName? = some (String.ofList last) := by
  obtain ⟨before, hpieces⟩ := List.getLast?_eq_some_iff.mp hlast
  have hkept : keptPieces (before ++ [last]) ≤ before.length := by
    unfold keptPieces
    split
    · next first second rest h =>
      have hlength := congrArg List.length h
      simp only [List.length_append, List.length_cons, List.length_nil] at hlength
      omega
    · next rest h =>
      cases before with
      | nil => exact absurd (List.cons.inj h).1 hname.ne_here
      | cons first others => simp
    · exact Nat.zero_le _
  have hinside : ¬ (before.reverse.isEmpty ∧ p.isAbsolute) := by
    rintro ⟨hempty, habsolute⟩
    have hnil : before = [] := by simpa using hempty
    have htext : p.text.toList = last := by
      have hjoined : ['/'].intercalate (p.text.toList.splitOn '/') = p.text.toList :=
        List.intercalate_splitOn '/'
      unfold pieces at hpieces
      rw [hpieces, hnil] at hjoined
      simpa using hjoined.symm
    have hslash : '/' ∈ p.text.toList := List.mem_of_head? (by simpa [isAbsolute] using habsolute)
    rw [htext] at hslash
    exact slash_not_mem_pieces (List.mem_of_getLast? hlast) hslash
  have hsplit : ∃ lower, p.splitLast? = some (lower, last) := by
    unfold splitLast?
    dsimp only
    rw [hpieces, trimPieces_of_names hname hkept, List.reverse_append, List.reverse_singleton,
      List.singleton_append]
    exact ⟨_, if_neg hinside⟩
  obtain ⟨lower, hsplit⟩ := hsplit
  unfold fileName?
  rw [hsplit]
  exact if_neg (by simp [hname.ne_nil, hname.ne_here, hname.ne_up])

end LayeredSettings.Path
