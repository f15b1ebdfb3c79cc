import LayeredSettings.Value.Basic
import LayeredSettings.NameMap

/-!
# Resolved settings

A snapshot of the effective configuration: one entry per setting, with the value in effect and the
layer it comes from.
-/

namespace LayeredSettings

/-- The layer that a value comes from. -/
inductive Source where
  | default
  | profile
  | environment
  | override
  deriving DecidableEq

/-- The name of a layer. -/
def Source.label : Source → String
  | default => "default"
  | profile => "profile"
  | environment => "environment"
  | override => "override"

/-- The remark on a layer beside a shown value. -/
def Source.remark : Source → String
  | default => "(from defaults)"
  | profile => "(from profile)"
  | environment => "(from env)"
  | override => "(from override)"

/-- One setting with its value in effect, if it has one. -/
structure Entry where
  name : String
  value : Option Value
  source : Source
  deriving DecidableEq

/-- The text shown for an entry; `None` stands for no value. -/
def Entry.display (reveal : Bool) (e : Entry) : String :=
  (e.value.map (Value.display reveal)).getD "None"

/-- Equality of entries, with the values compared as values. -/
def Entry.same (a b : Entry) : Bool :=
  a.name == b.name && a.source == b.source &&
    match a.value, b.value with
    | some v, some w => v.same w
    | none, none => true
    | _, _ => false

/-- Typed values that outrank every other layer, by setting key. -/
abbrev Overrides := NameMap Value

/-- The effective configuration, in the order of the registry. -/
structure Settings where
  entries : List Entry
  deriving DecidableEq

namespace Settings

/-- The entry of a setting, by its own name. -/
def get? (s : Settings) (name : String) : Option Entry := s.entries.find? (·.name = name)

/-- The value in effect for a setting. -/
def value? (s : Settings) (name : String) : Option Value := (s.get? name).bind (·.value)

/-- The entries whose value comes from a layer above the defaults. -/
def nonDefault (s : Settings) : List Entry := s.entries.filter (·.source ≠ .default)

/-- Equality of snapshots, entry by entry. -/
def same (s t : Settings) : Bool :=
  s.entries.length == t.entries.length && (s.entries.zip t.entries).all fun (a, b) => a.same b

end Settings

end LayeredSettings
