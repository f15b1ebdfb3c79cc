import LayeredSettings.Error
import LayeredSettings.Template
import LayeredSettings.Text.Upper

/-!
# Setting definitions

A definition is what is known of a setting before any value is supplied: its name and kind, the
value it has by default, a check on its values, the deprecated names it still answers to, and a
description.
-/

namespace LayeredSettings

/-- A check on typed values. -/
abbrev Validator := Value → Except Reason Unit

namespace Validator

/-- Every value passes. -/
def none : Validator := fun _ => .ok ()

/-- The value is an integer from 1 to 65535. -/
def port : Validator := fun value =>
  if value.asInteger?.any fun i => 1 ≤ i.toInt && i.toInt ≤ 65535 then .ok ()
  else .error "value must be a port number between 1 and 65535"

/-- The value is a number above zero. -/
def positive : Validator := fun value =>
  if value.asFloat?.any Binary64.isPositive then .ok () else .error "value must be greater than 0"

/-- The value is zero or a number above it. -/
def nonNegative : Validator := fun value =>
  if value.asFloat?.any Binary64.isNonNegative then .ok ()
  else .error "value must be greater than or equal to 0"

end Validator

/-- The value that a setting has when nobody supplies one: none, a fixed one, or one made from the
values of other settings. -/
inductive DefaultValue where
  | unset
  | fixed (value : Value)
  | template (text : String)
  deriving DecidableEq

/-- What is known of a setting. -/
structure Definition where
  name : String
  kind : Kind
  defaultValue : DefaultValue := .unset
  validator : Validator := Validator.none
  aliases : List String := []
  description : String := ""

namespace Definition

/-- The names a setting answers to: its own, then the deprecated ones. -/
def keys (d : Definition) : List String := d.name :: d.aliases

/-- The template of the default, if it is one. -/
def template? (d : Definition) : Option String :=
  match d.defaultValue with
  | .template text => some text
  | _ => none

/-- The names that the default's template refers to. -/
def references (d : Definition) : List String :=
  (d.template?.map Template.references).getD []

/-- A typed value is of the setting's kind and passes its check. -/
def validate (d : Definition) (value : Value) : Except Reason Unit :=
  if d.kind.accepts value then d.validator value else .error (.notOfKind d.kind)

/-- The value that a raw value gives for the setting, checked. -/
def cast (home : Home) (d : Definition) (raw : Raw) : Except Reason Value := do
  let value ← d.kind.cast home raw
  d.validate value
  return value

end Definition

/-- The environment variable of a setting: its name in upper case, with the prefix in front unless
it is there already. -/
def variableName (envPrefix name : String) : String :=
  if envPrefix = "" ∨ Text.startsWith (Text.upper envPrefix) (Text.upper name) then Text.upper name
  else Text.upper envPrefix ++ Text.upper name

end LayeredSettings
