import LayeredSettings.Proofs.Path
import LayeredSettings.Proofs.Value.RoundTrip

/-!
# Places below the home directory

A path that is put below another has the components of both, one after the other, whatever slashes
and dots stand between them. So a text that begins with the abbreviation of the home directory
stands for a place below it, unless a second slash follows: what comes after the abbreviation is
then taken as a path from the root, and the home directory is lost.
-/

namespace LayeredSettings

namespace Path

variable {p : Path} {rest : String}

/-- The steps on both sides of a slash follow each other. -/
theorem steps_append_slash (front back : List Char) :
    steps (front ++ '/' :: back) = steps front ++ steps back := by
  unfold steps pieces
  rw [List.splitOn_append_cons_self, List.filterMap_append]

/-- A slash at the end of a text adds no step. -/
theorem steps_trailing_slash (front : List Char) : steps (front ++ ['/']) = steps front := by
  rw [steps_append_slash]
  exact List.append_nil _

/-- A slash that something stands before does not change how a text starts. -/
theorem head?_pieces_append_slash (front back : List Char) :
    (pieces (front ++ '/' :: back)).head? = (pieces front).head? := by
  unfold pieces
  rw [List.splitOn_append_cons_self]
  exact List.head?_append_of_ne_nil _ (List.splitOn_ne_nil '/' front)

/-- Behind a slash the components go on with the steps that stand there. -/
theorem components_append_slash (front back : List Char) :
    components ⟨String.ofList (front ++ '/' :: back)⟩ =
      components ⟨String.ofList (front ++ ['/'])⟩ ++ steps back := by
  have habsolute : isAbsolute ⟨String.ofList (front ++ '/' :: back)⟩ =
      isAbsolute ⟨String.ofList (front ++ ['/'])⟩ := by
    cases front <;> simp [isAbsolute]
  unfold components
  simp only [habsolute, String.toList_ofList, head?_pieces_append_slash,
    steps_append_slash front back, steps_trailing_slash]
  split
  · rfl
  · split <;> rfl

/-- A slash at the end of a path counts for nothing. -/
theorem components_trailing_slash {front : List Char} (hne : front ≠ []) :
    components ⟨String.ofList (front ++ ['/'])⟩ = components ⟨String.ofList front⟩ := by
  obtain ⟨c, rest, rfl⟩ := List.exists_cons_of_ne_nil hne
  have habsolute : isAbsolute ⟨String.ofList (c :: rest ++ ['/'])⟩ =
      isAbsolute ⟨String.ofList (c :: rest)⟩ := by
    simp [isAbsolute]
  unfold components
  simp only [habsolute, String.toList_ofList, head?_pieces_append_slash, steps_trailing_slash]

/-- A relative text put below a path goes on with its steps. -/
theorem components_join (hne : p.text ≠ "") (hrelative : rest.toList.head? ≠ some '/') :
    (p.join rest).components = p.components ++ steps rest.toList := by
  have hne' : p.text.toList ≠ [] := fun h => hne (String.toList_eq_nil_iff.mp h)
  have hp : (⟨String.ofList p.text.toList⟩ : Path) = p := by rw [String.ofList_toList]
  unfold join
  rw [if_neg hrelative]
  split
  · next hend =>
    -- The slash at the end of the path is the one between them.
    obtain ⟨front, hfront⟩ := List.getLast?_eq_some_iff.mp (hend.resolve_left hne')
    have htext : p.text ++ rest = String.ofList (front ++ '/' :: rest.toList) := by
      rw [← String.toList_inj, String.toList_append, hfront, String.toList_ofList]
      simp
    rw [htext, components_append_slash, ← hfront, hp]
  · have htext : p.text ++ "/" ++ rest = String.ofList (p.text.toList ++ '/' :: rest.toList) := by
      rw [← String.toList_inj, String.toList_append, String.toList_append, String.toList_ofList]
      simp
    rw [htext, components_append_slash, components_trailing_slash hne', hp]

/-- A text with a slash at its start stands alone. -/
theorem join_of_absolute (p : Path) (habsolute : rest.toList.head? = some '/') :
    p.join rest = ⟨rest⟩ := if_pos habsolute

/-- A text with a slash at its start goes from the root. -/
theorem components_of_absolute (habsolute : rest.toList.head? = some '/') :
    components ⟨rest⟩ = .root :: steps rest.toList := by
  have hroot : isAbsolute ⟨rest⟩ = true := by simp [isAbsolute, habsolute]
  unfold components
  rw [if_pos hroot]

/-- What is put below a path has the components of both exactly if it does not start with a slash,
or the path is the root. -/
theorem components_join_eq_iff (hne : p.text ≠ "") :
    (p.join rest).components = p.components ++ steps rest.toList ↔
      rest.toList.head? ≠ some '/' ∨ p.components = [.root] := by
  by_cases habsolute : rest.toList.head? = some '/'
  · rw [join_of_absolute p habsolute, components_of_absolute habsolute, ← List.singleton_append,
      List.append_left_inj]
    simp [habsolute, eq_comm]
  · simp [components_join hne habsolute, habsolute]

/-- What is put below a path begins with the components of the path, unless it starts with a slash
and goes elsewhere. -/
theorem components_prefix_join_iff (hne : p.text ≠ "") :
    p.components <+: (p.join rest).components ↔
      rest.toList.head? ≠ some '/' ∨ p.components <+: .root :: steps rest.toList := by
  by_cases habsolute : rest.toList.head? = some '/'
  · simp [join_of_absolute p habsolute, components_of_absolute habsolute, habsolute]
  · simp [components_join hne habsolute, habsolute]

end Path

namespace Home

/-- A text behind the abbreviation of the home directory is put below that directory. -/
theorem expand_below (directory : Path) (rest : String) :
    expand (some directory) ("~/" ++ rest) = directory.join rest := by
  have htext : ("~/" ++ rest).toList = '~' :: '/' :: rest.toList := by
    rw [String.toList_append]
    rfl
  unfold expand
  rw [htext]
  exact congrArg directory.join String.ofList_toList

/-- A text that is neither the abbreviation nor continues it is a path as it stands. -/
theorem expand_of_other {home : Home} {text : String} (hword : text ≠ "~")
    (hstart : Text.startsWith "~/" text = false) : home.expand text = ⟨text⟩ := by
  refine expand_of_not_isAbbreviation ?_
  rintro (habbreviation | hcontinues)
  · exact hword (String.toList_inj.mp habbreviation)
  · have hstarts : Text.startsWith "~/" text = true := List.isPrefixOf_iff_prefix.mpr hcontinues
    rw [hstarts] at hstart
    cases hstart

end Home

/-- A text behind the abbreviation of the home directory is cast to a path with the components of
that directory and then its own steps, exactly unless it starts with a slash and the home directory
is not the root. With a slash at its start it is a path of its own, which begins with the components
of the home directory only if it leads there itself. Any text without the abbreviation is kept. -/
theorem Kind.cast_path_below_home (directory : Path) (rest : String) (hne : directory.text ≠ "") :
    (∃ p, Kind.path.cast (some directory) (.text ("~/" ++ rest)) = .ok (.path p) ∧
      (p.components = directory.components ++ Path.steps rest.toList ↔
        rest.toList.head? ≠ some '/' ∨ directory.components = [.root]) ∧
      (directory.components <+: p.components ↔ rest.toList.head? ≠ some '/' ∨
        directory.components <+: .root :: Path.steps rest.toList) ∧
      (rest.toList.head? = some '/' → p = ⟨rest⟩)) ∧
    ∀ (home : Home) (text : String), text ≠ "~" → Text.startsWith "~/" text = false →
      Kind.path.cast home (.text text) = .ok (.path ⟨text⟩) := by
  refine ⟨⟨directory.join rest, ?_, ?_, ?_, ?_⟩, ?_⟩
  · change Except.ok (Value.path (Home.expand (some directory) ("~/" ++ rest))) = _
    rw [Home.expand_below]
  · exact Path.components_join_eq_iff hne
  · exact Path.components_prefix_join_iff hne
  · exact directory.join_of_absolute
  · intro home text hword hstart
    change Except.ok (Value.path (home.expand text)) = _
    rw [Home.expand_of_other hword hstart]

/-- Slashes and dots between the home directory and what stands below it make no difference, a tilde
that no slash follows is kept. -/
theorem Kind.cast_path_below_home_of_dots :
    let directory : Path := ⟨"./home/user//"⟩
    directory.text ≠ "" ∧ "./x//../y/".toList.head? ≠ some '/' ∧
      (∃ p, Kind.path.cast (some directory) (.text ("~/" ++ "./x//../y/")) = .ok (.path p) ∧
        p.components = [.here, .name "home", .name "user"] ++ [.name "x", .up, .name "y"]) ∧
      Kind.path.cast (some directory) (.text "~user/x") = .ok (.path ⟨"~user/x"⟩) := by
  intro directory
  have hne : directory.text ≠ "" := by decide
  have hrelative : "./x//../y/".toList.head? ≠ some '/' := by decide
  obtain ⟨⟨p, hp, hcomponents, -⟩, hkept⟩ := cast_path_below_home directory "./x//../y/" hne
  refine ⟨hne, hrelative, ⟨p, hp, ?_⟩, hkept _ _ (by decide) (by decide +kernel)⟩
  rw [hcomponents.mpr (Or.inl hrelative)]
  decide +kernel

/-- With a second slash behind the abbreviation the home directory is lost. -/
theorem home_lost_behind_slash :
    ∃ (directory p : Path), directory = ⟨"/home/user"⟩ ∧ directory.text ≠ "" ∧
      Kind.path.cast (some directory) (.text ("~/" ++ "/etc")) = .ok (.path p) ∧
      p.components = [.root, .name "etc"] ∧
      p.components ≠ directory.components ++ Path.steps "/etc".toList ∧
      ¬ directory.components <+: p.components :=
  ⟨_, ⟨"/etc"⟩, rfl, by decide, by decide +kernel, by decide +kernel, by decide +kernel,
    by decide +kernel⟩

end LayeredSettings
