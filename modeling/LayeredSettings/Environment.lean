import LayeredSettings.NameMap
import LayeredSettings.Registry.Basic

/-!
# Environment snapshots

The environment variables that a resolution may look at, captured once.
-/

namespace LayeredSettings

/-- Environment variables and their texts. -/
abbrev Environment := NameMap String

namespace Environment

/-- The variables whose names start with a prefix. -/
def withPrefix (env : Environment) (start : String) : Environment :=
  env.filter (Text.startsWith start)

/-- The text bound to a setting: that of its own variable, else of the first deprecated one set. -/
def lookup? (env : Environment) (r : Registry) (d : Definition) : Option String :=
  (r.variableNames d).findSome? env.get?

/-- One of the setting's variables is set. -/
def binds (env : Environment) (r : Registry) (d : Definition) : Bool := (env.lookup? r d).isSome

/-- The variables bound to the settings that some keys belong to. -/
def only (env : Environment) (r : Registry) (keys : List String) : Environment :=
  let kept := (keys.filterMap r.find?).flatMap r.variableNames
  env.filter (kept.contains ·)

end Environment

end LayeredSettings
