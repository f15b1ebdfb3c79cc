/-!
# Templates

A template is a text with placeholders `${NAME}`, where a name is a letter or underscore followed by
letters, digits and underscores, all ASCII. The text is cut from the left into placeholders and the
longest literal pieces between them; filling a template replaces each placeholder and copies each
literal, and what is filled in is not looked at again.
-/

namespace LayeredSettings.Template

/-- A part of a template. -/
inductive Piece where
  | literal (cs : List Char)
  | placeholder (name : List Char)
  deriving DecidableEq

/-- The character may start a name. -/
def isNameStart (c : Char) : Bool := c.isAlpha || c == '_'

/-- The character may stand in a name. -/
def isNameChar (c : Char) : Bool := c.isAlphanum || c == '_'

/-- The name of the placeholder at the start of a text, and what follows the placeholder. -/
def placeholder? : List Char → Option (List Char × List Char)
  | '$' :: '\x7b' :: rest =>
    match rest.takeWhile isNameChar, rest.dropWhile isNameChar with
    | c :: name, '\x7d' :: after => if isNameStart c then some (c :: name, after) else none
    | _, _ => none
  | _ => none

/-- What follows a placeholder is shorter than the text. -/
theorem length_of_placeholder? {cs name after : List Char}
    (h : placeholder? cs = some (name, after)) : after.length < cs.length := by
  unfold placeholder? at h
  split at h
  · next rest =>
    split at h
    · next c cs' after' htake hdrop =>
      split at h
      · obtain ⟨-, rfl⟩ := by simpa using h
        have hle : (rest.dropWhile isNameChar).length ≤ rest.length :=
          (List.dropWhile_suffix isNameChar).length_le
        rw [hdrop] at hle
        simp only [List.length_cons] at hle ⊢
        omega
      · simp at h
    · simp at h
  · simp at h

/-- The pieces with a literal character in front, which joins a literal that stands first. -/
def addLiteral (c : Char) : List Piece → List Piece
  | .literal cs :: pieces => .literal (c :: cs) :: pieces
  | pieces => .literal [c] :: pieces

/-- The pieces of a template. -/
def pieces (cs : List Char) : List Piece :=
  match _h : placeholder? cs with
  | some (name, after) => .placeholder name :: pieces after
  | none =>
    match cs with
    | [] => []
    | c :: rest => addLiteral c (pieces rest)
termination_by cs.length
decreasing_by
  · exact length_of_placeholder? (by assumption)
  · simp

/-- The name in a placeholder. -/
def Piece.reference? : Piece → Option String
  | .literal _ => none
  | .placeholder name => some (String.ofList name)

/-- What a piece becomes when names stand for texts. -/
def Piece.fill (assign : String → String) : Piece → List Char
  | .literal cs => cs
  | .placeholder name => (assign (String.ofList name)).toList

/-- The names in the placeholders of a template, in order, repeats included. -/
def references (template : String) : List String :=
  (pieces template.toList).filterMap Piece.reference?

/-- The template with every placeholder replaced by the text that its name stands for. -/
def fill (assign : String → String) (template : String) : String :=
  String.ofList ((pieces template.toList).flatMap (Piece.fill assign))

end LayeredSettings.Template
