import LayeredSettings.Text.Escape
import LayeredSettings.Toml.DateText

/-!
# Tables that stand for dates

A table whose first member has the key of dates stands for the date that is written there, whatever
its other members are. A document in which such a member is no date cannot be read.
-/

namespace LayeredSettings.Toml

/-- Why a text cannot be read as a document of a given form. -/
inductive DocumentFault where
  | malformed
  | wrongKind (found expected : String)
  | badDate (fault : DateFault)
  deriving DecidableEq

/-- Why a text cannot be read, in words. -/
def DocumentFault.message : DocumentFault → String
  | malformed => "<toml>"
  | wrongKind found expected => "invalid type: " ++ found ++ ", expected " ++ expected
  | badDate fault => fault.message

namespace Value

/-- A value as it is told where another kind of value is expected. A date counts as a table. -/
def described : Value → String
  | string s => "string " ++ Text.quoted s
  | integer i => "integer \x60" ++ toString i ++ "\x60"
  | float x => "floating point \x60" ++ x.text .stored "NaN" ++ "\x60"
  | boolean b => "boolean \x60" ++ toString b ++ "\x60"
  | array _ => "sequence"
  | datetime | table _ => "map"

end Value

/-- The key of dates. -/
def datetimeKey : String := "$__toml_private_datetime"

/-- The date that is written under the key of dates. -/
def dateOf : Value → Except DocumentFault Value
  | .string s => (checkDate s).map (fun _ => .datetime) |>.mapError .badDate
  | value => .error (.wrongKind value.described "string containing a datetime")

mutual

/-- A value with dates in place of the tables that stand for them. -/
def Value.withDates : Value → Except DocumentFault Value
  | .array items => return .array (← withDatesOfItems items)
  | .table ((key, value) :: rest) =>
    if key = datetimeKey then dateOf value
    else return .table ((key, ← value.withDates) :: (← withDatesOfMembers rest))
  | value => .ok value

/-- The values of an array with dates in place of the tables that stand for them. -/
def withDatesOfItems : List Value → Except DocumentFault (List Value)
  | [] => .ok []
  | value :: rest => return (← value.withDates) :: (← withDatesOfItems rest)

/-- The members of a table with dates in place of the tables that stand for them. -/
def withDatesOfMembers : List (String × Value) → Except DocumentFault (List (String × Value))
  | [] => .ok []
  | (key, value) :: rest => return (key, ← value.withDates) :: (← withDatesOfMembers rest)

end

end LayeredSettings.Toml
