import LayeredSettings.Context.Request
import LayeredSettings.Logging

/-!
# Hooks

What happens beside when a context is entered with a hook and when its frame is left. A hook may ask
for a log level, and it may fail: then entering is called off, and leaving goes on.
-/

namespace LayeredSettings

/-- What is done when a context is about to be entered, and after its frame was left, with the
context that is then seen. Each gives the log level to set, if any. -/
structure Hook where
  label : Option String
  onEnter : SettingsContext → Except SettingsError (Option Level)
  onExit : Option SettingsContext → Except SettingsError (Option Level)

namespace Hook

/-- Nothing happens. -/
def silent : Hook := ⟨none, fun _ => .ok none, fun _ => .ok none⟩

/-- The log level follows the current context, with a base level where the context asks for none. -/
def logging (base : String) : Hook where
  label := none
  onEnter context := (Level.parse (context.levelName base)).map some
  onExit seen := (Level.parse ((seen.map (·.levelName base)).getD base)).map some

/-- The calls are recorded under a label, and fail with a text if one is given. -/
def recording (label : String) (failEnter failExit : Option String) : Hook where
  label := some label
  onEnter _ := failEnter.elim (.ok none) fun text => .error (.other text)
  onExit _ := failExit.elim (.ok none) fun text => .error (.other text)

end Hook

/-- A call of a hook. -/
inductive HookCall where
  | enter (label : Option String) (context : SettingsContext)
  | exit (label : Option String) (seen : Option SettingsContext)
  deriving DecidableEq

/-- The right to leave a frame, and the hook that goes with it. -/
structure Guard where
  sequence : Nat
  owner : Owner
  context : SettingsContext
  hook : Option Hook

end LayeredSettings
