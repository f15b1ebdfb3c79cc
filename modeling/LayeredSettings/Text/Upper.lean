import LayeredSettings.Text.Upper.Table

/-!
# Upper case

The full upper-case mapping of a text: each character gives one, two or three characters, whatever
stands around it, so the mapping distributes over concatenation.
-/

namespace LayeredSettings.Text

/-- The upper case of a character outside the ASCII letters, as the tables give it. -/
def upperByTable (c : Char) : List Char :=
  match upperSequences.lookup c.toNat with
  | some codes => codes.map Char.ofNat
  | none =>
    match upperRuns.find? (·.covers c.toNat) with
    | some run => [Char.ofNat ((c.toNat : Int) + run.shift).toNat]
    | none => [c]

/-- The upper case of a character. -/
def upperChar (c : Char) : List Char :=
  if c.toNat < 0x80 then [c.toUpper] else upperByTable c

/-- The upper case of a text. -/
def upper (s : String) : String :=
  String.ofList (s.toList.flatMap upperChar)

/-- The characters of a text in upper case are those of its characters in turn. -/
theorem toList_upper (s : String) : (upper s).toList = s.toList.flatMap upperChar := by
  simp [upper]

/-- Upper case distributes over concatenation. -/
theorem upper_append (s t : String) : upper (s ++ t) = upper s ++ upper t := by
  simp [upper]

end LayeredSettings.Text
