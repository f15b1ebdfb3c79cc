import LayeredSettings.Text.Basic
import LayeredSettings.Value.Basic

/-!
# Casts

A cast turns a raw value into a value of a kind, or gives the reason why it does not fit. Text is
read without the blanks around it where it stands for a truth value, a number or a member of an
enumeration, and as it is everywhere else.
-/

namespace LayeredSettings

/-- Why a value does not fit a setting. -/
abbrev Reason := String

namespace Reason

/-- The value is no truth value. -/
def notBoolean : Reason := "value could not be parsed to a boolean"

/-- The value is no integer of 64 bits. -/
def notInteger : Reason := "value is not a valid integer"

/-- The value is no finite number. -/
def notFloat : Reason := "value is not a valid float"

/-- The value is no member of the enumeration. -/
def notMember (members : List String) : Reason :=
  "value is not one of: " ++ ", ".intercalate members

/-- A typed value is not of the setting's kind. -/
def notOfKind (kind : Kind) : Reason := "value is not a valid " ++ kind.label

end Reason

/-- The truth value that a word stands for, in any case and with blanks around it. -/
def truthOfWord? (s : String) : Option Bool :=
  let word := Text.lowerAscii (Text.trim s)
  if word ∈ ["true", "1", "yes", "on"] then some true
  else if word ∈ ["false", "0", "no", "off"] then some false
  else none

/-- Reads a truth value. -/
def Raw.toBoolean? : Raw → Option Bool
  | .boolean b => some b
  | .integer i => if i = 0 then some false else if i = 1 then some true else none
  | .float _ => none
  | .text s => truthOfWord? s

/-- Reads an integer; a number without a fraction counts if it is in range. -/
def Raw.toInteger? : Raw → Option Int64
  | .boolean _ => none
  | .integer i => some i
  | .float x =>
    x.toInt?.bind int64?
  | .text s => readInt64? (Text.trimBlanks s.toList)

/-- Reads a number; text must stand for a finite one. -/
def Raw.toFloat? : Raw → Option Binary64
  | .boolean _ => none
  | .integer i => some (Binary64.ofInt i.toInt)
  | .float x => some x
  | .text s => (Binary64.read? (Text.trimBlanks s.toList)).filter Binary64.isFinite

/-- The member of an enumeration that a text names, the first that agrees up to case. -/
def memberOf? (members : List String) (s : String) : Option String :=
  members.find? (Text.sameIgnoringCase · (Text.trim s))

/-- The value of a kind that a raw value stands for, or the reason why there is none. -/
def Kind.cast (home : Home) (kind : Kind) (raw : Raw) : Except Reason Value :=
  match kind with
  | .boolean => (raw.toBoolean?.map Value.boolean).elim (.error .notBoolean) .ok
  | .integer => (raw.toInteger?.map Value.integer).elim (.error .notInteger) .ok
  | .float => (raw.toFloat?.map Value.float).elim (.error .notFloat) .ok
  | .string => .ok (.string raw.toText)
  | .path => .ok (.path (home.expand raw.toText))
  | .secret => .ok (.secret raw.toText)
  | .enumeration members =>
    ((memberOf? members raw.toText).map Value.enumeration).elim (.error (.notMember members)) .ok

end LayeredSettings
