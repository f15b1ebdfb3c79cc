import LayeredSettings.Context.Basic
import LayeredSettings.Logging.Directive

/-!
# Log levels

Level names, setting logging up, and which level is in force: one that was given once for all, or
the one that the current settings ask for.
-/

namespace LayeredSettings

/-- The setting that the level follows. -/
def levelSetting : String := "PREFECT_LOGGING_LEVEL"

/-- The level that a name stands for, in any case. -/
def Level.ofName? (name : String) : Option Level :=
  match Text.lowerAscii name with
  | "trace" => some .trace
  | "debug" => some .debug
  | "info" => some .info
  | "warn" | "warning" => some .warn
  | "error" | "critical" => some .error
  | _ => none

/-- The level that a name stands for, or the error that it is none. -/
def Level.parse (name : String) : Except SettingsError Level :=
  (Level.ofName? name).elim
    (.error (.logging ("Invalid log level: " ++ name ++
      ". Must be one of: trace, debug, info, warning, error, critical"))) .ok

/-- The level follows the settings: neither the command line nor the environment fixes it. -/
def levelFollowsSettings (given : Option String) (fromEnvironment : Option String) : Bool :=
  given.isNone && fromEnvironment.all fun s => Text.trim s = ""

/-- The name of the level that a context asks for: its own if some layer supplied one, else the base
level. -/
def SettingsContext.levelName (context : SettingsContext) (base : String) : String :=
  ((((context.settings.get? levelSetting).filter (·.source ≠ .default)).bind (·.value)).bind
    Value.asString?).getD base

/-- Logging as a program finds it: not set up, or set up with a filter. -/
inductive LogState where
  | absent
  | ready (filter : LevelFilter)
  deriving DecidableEq

namespace LogState

/-- Logging set up with the level of a name, or with the filter that the environment asks for. The
name must be that of a level in any case, and logging is set up once only. -/
def setUp (state : LogState) (name : String) (fromEnvironment : Option String) :
    Except SettingsError LogState := do
  let level ← Level.parse name
  match state with
  | ready _ =>
    throw (.logging
      "Failed to install subscriber: a global default trace dispatcher has already been set")
  | absent => return ready ((fromEnvironment.bind LevelFilter.ofText?).getD (some level))

/-- The level of a name in force from here on; nothing changes before logging is set up. -/
def setLevel (state : LogState) (name : String) : Except SettingsError LogState := do
  let level ← Level.parse name
  match state with
  | absent => return absent
  | ready _ => return ready (some level)

/-- The filter in force; nothing is written before logging is set up. -/
def filter : LogState → LevelFilter
  | absent => none
  | ready filter => filter

end LogState

end LayeredSettings
