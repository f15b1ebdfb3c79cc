import LayeredSettings.Text.Basic
import LayeredSettings.Text.Escape

/-!
# Profile names

A profile name holds something other than blanks, neither starts nor ends with one, and holds no
control character.
-/

namespace LayeredSettings

/-- What is wrong with a text as a profile name. -/
inductive NameFault where
  | empty
  | padded (text : String)
  | control (text : String)
  deriving DecidableEq

/-- What is wrong, in words. -/
def NameFault.message : NameFault → String
  | empty => "Profile name cannot be empty"
  | padded text => "Profile name '" ++ text ++ "' cannot start or end with whitespace"
  | control text => "Profile name '" ++ Text.escaped text ++ "' contains control characters"

/-- The first fault of a text as a profile name. -/
def nameFault? (text : String) : Option NameFault :=
  if Text.trim text = "" then some .empty
  else if Text.trim text ≠ text then some (.padded text)
  else if text.toList.any Text.isControl then some (.control text)
  else none

/-- A text that is a profile name. -/
structure ProfileName where
  text : String
  valid : nameFault? text = none
  deriving DecidableEq

namespace ProfileName

/-- The profile name that a text is, or what is wrong with it. -/
def ofText (text : String) : Except NameFault ProfileName :=
  match h : nameFault? text with
  | none => .ok ⟨text, h⟩
  | some fault => .error fault

end ProfileName

end LayeredSettings
