import LayeredSettings.Error

/-!
# The journal

Events that operations report while they run, their levels, the filter that decides which of them
are written, and the journal they are reported to.
-/

namespace LayeredSettings

/-- How much an event matters, the most important first. -/
inductive Level where
  | error
  | warn
  | info
  | debug
  | trace
  deriving DecidableEq

/-- The position of a level, the most important having position 1. -/
def Level.rank : Level → Nat
  | error => 1
  | warn => 2
  | info => 3
  | debug => 4
  | trace => 5

/-- The name of a level in capitals. -/
def Level.label : Level → String
  | error => "ERROR"
  | warn => "WARN"
  | info => "INFO"
  | debug => "DEBUG"
  | trace => "TRACE"

/-- The least important level that is written, or nothing at all. -/
abbrev LevelFilter := Option Level

/-- The filter lets events of a level through. -/
def LevelFilter.admits (filter : LevelFilter) (level : Level) : Bool :=
  filter.any (level.rank ≤ ·.rank)

/-- The name of a filter: that of its level, or that nothing is written. -/
def LevelFilter.label (filter : LevelFilter) : String := filter.elim "OFF" Level.label

/-- Something that an operation reports. -/
inductive Event where
  | contextEntered
  | contextExited
  | loggingReady
  | started
  | resolved
  | storeLocated
  | storeMissing
  | storeLoaded
  | profileInUse
  | settingsUpdated
  | commandRejected
  | storeSaved
  | profileChanged
  | aliasUsed (key setting : String)
  | profileAliasUsed (profile key setting : String)
  | unknownKeyIgnored (profile key : String)
  | settingsUnresolved (cause : SettingsError)
  | exitHookFailed (cause : SettingsError)
  | commandFailed (cause : SettingsError)
  deriving DecidableEq

namespace Event

/-- How much an event matters. -/
def level : Event → Level
  | contextEntered | contextExited => .trace
  | loggingReady | started | resolved | storeLocated | storeMissing | storeLoaded | profileInUse
  | settingsUpdated | commandRejected => .debug
  | storeSaved | profileChanged => .info
  | aliasUsed .. | profileAliasUsed .. | unknownKeyIgnored .. | settingsUnresolved _
  | exitHookFailed _ => .warn
  | commandFailed _ => .error

/-- The message of an event. -/
def message : Event → String
  | contextEntered => "Entered settings context"
  | contextExited => "Exited settings context"
  | loggingReady => "Logging initialized"
  | started => "Starting prefect"
  | resolved => "Resolved settings"
  | storeLocated => "Using profiles file"
  | storeMissing => "Profiles file not found, using default profile"
  | storeLoaded => "Loaded profiles"
  | profileInUse => "Using settings profile"
  | settingsUpdated => "Updated profile settings"
  | commandRejected => "Command rejected"
  | storeSaved => "Saved profiles"
  | profileChanged => "Profile updated"
  | aliasUsed .. => "Setting alias is deprecated, use the canonical name"
  | profileAliasUsed .. => "Profile uses a deprecated setting alias"
  | unknownKeyIgnored .. => "Ignoring unknown setting in profile"
  | settingsUnresolved _ => "Settings could not be resolved"
  | exitHookFailed _ => "Settings context exit hook failed"
  | commandFailed _ => "Error occurred"

/-- What a warning or an error tells beside its message. -/
def fields : Event → List (String × String)
  | aliasUsed key setting => [("alias", key), ("setting", setting)]
  | profileAliasUsed profile key setting =>
    [("profile", profile), ("alias", key), ("setting", setting)]
  | unknownKeyIgnored profile key => [("profile", profile), ("key", key)]
  | settingsUnresolved cause | exitHookFailed cause => [("error", cause.message)]
  | commandFailed cause => [("error", cause.message), ("context", "Command execution failed")]
  | _ => []

end Event

/-- What has been reported so far, and what of it has been written: the events that the filter let
through when they were reported. -/
structure Journal where
  filter : LevelFilter
  reported : List Event
  written : List Event
  deriving DecidableEq

namespace Journal

/-- A journal in which nothing has been reported. -/
def empty (filter : LevelFilter) : Journal := ⟨filter, [], []⟩

/-- The journal with some events reported. -/
def report (j : Journal) (events : List Event) : Journal :=
  { j with
    reported := j.reported ++ events
    written := j.written ++ events.filter (j.filter.admits ·.level) }

/-- The journal with another filter from here on. -/
def withFilter (j : Journal) (filter : LevelFilter) : Journal := { j with filter }

end Journal

end LayeredSettings
