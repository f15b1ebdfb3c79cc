import LayeredSettings.Registry.Basic

/-!
# The built-in catalog

The settings that the program itself knows.
-/

namespace LayeredSettings

/-- The prefix of the built-in settings and of their environment variables. -/
def builtinPrefix : String := "PREFECT_"

/-- The levels that the logging settings accept. -/
def logLevels : List String := ["DEBUG", "INFO", "WARNING", "ERROR", "CRITICAL"]

/-- The built-in definitions, in order. -/
def builtinDefinitions : List Definition := [
  { name := "PREFECT_HOME", kind := .path, defaultValue := .template "~/.prefect",
    description := "Directory for local state, profiles and logs" },
  { name := "PREFECT_DEBUG_MODE", kind := .boolean, defaultValue := .fixed (.boolean false),
    description := "Enable verbose behaviour useful for debugging" },
  { name := "PREFECT_TEST_MODE", kind := .boolean, defaultValue := .fixed (.boolean false),
    description := "Run in test mode" },
  { name := "PREFECT_PROFILES_PATH", kind := .path,
    defaultValue := .template "$\x7bPREFECT_HOME\x7d/profiles.toml",
    description := "File holding the persisted profiles" },
  { name := "PREFECT_API_URL", kind := .string,
    description := "URL of the API the client talks to" },
  { name := "PREFECT_API_KEY", kind := .secret,
    description := "API key used to authenticate against the API" },
  { name := "PREFECT_API_REQUEST_TIMEOUT", kind := .float,
    defaultValue := .fixed (.float (Binary64.ofInt 30)), validator := .positive,
    description := "Seconds before an API request times out" },
  { name := "PREFECT_CLOUD_API_URL", kind := .string,
    defaultValue := .fixed (.string "https://api.prefect.cloud/api"),
    aliases := ["PREFECT_CLOUD_URL"], description := "URL of the hosted API" },
  { name := "PREFECT_LOGGING_LEVEL", kind := .enumeration logLevels,
    defaultValue := .fixed (.enumeration "INFO"),
    description := "Default level for application loggers" },
  { name := "PREFECT_LOGGING_SERVER_LEVEL", kind := .enumeration logLevels,
    defaultValue := .fixed (.enumeration "WARNING"), description := "Level for server loggers" },
  { name := "PREFECT_LOGGING_SETTINGS_PATH", kind := .path,
    defaultValue := .template "$\x7bPREFECT_HOME\x7d/logging.yml",
    description := "Logging configuration file" },
  { name := "PREFECT_LOGGING_ORION_ENABLED", kind := .boolean,
    defaultValue := .fixed (.boolean true), description := "Ship logs to the API" },
  { name := "PREFECT_LOGGING_ORION_BATCH_INTERVAL", kind := .float,
    defaultValue := .fixed (.float (Binary64.ofInt 2)), validator := .positive,
    description := "Seconds between log batch flushes" },
  { name := "PREFECT_LOGGING_ORION_BATCH_SIZE", kind := .integer,
    defaultValue := .fixed (.integer 4000000), validator := .positive,
    description := "Maximum bytes per log batch" },
  { name := "PREFECT_LOGGING_ORION_MAX_LOG_SIZE", kind := .integer,
    defaultValue := .fixed (.integer 1000000), validator := .positive,
    description := "Maximum bytes of a single log record" },
  { name := "PREFECT_AGENT_QUERY_INTERVAL", kind := .float,
    defaultValue := .fixed (.float (Binary64.ofInt 5)), validator := .positive,
    description := "Seconds between agent work queue polls" },
  { name := "PREFECT_AGENT_PREFETCH_SECONDS", kind := .integer,
    defaultValue := .fixed (.integer 10), validator := .nonNegative,
    description := "Seconds of scheduled work an agent fetches ahead" },
  { name := "PREFECT_ORION_DATABASE_CONNECTION_URL", kind := .secret,
    defaultValue := .template "sqlite+aiosqlite:///$\x7bPREFECT_HOME\x7d/orion.db",
    description := "Database connection URL, may embed credentials" },
  { name := "PREFECT_ORION_DATABASE_ECHO", kind := .boolean,
    defaultValue := .fixed (.boolean false), description := "Echo emitted SQL" },
  { name := "PREFECT_ORION_DATABASE_TIMEOUT", kind := .float,
    defaultValue := .fixed (.float (Binary64.ofInt 1)), validator := .positive,
    description := "Seconds a database statement may run" },
  { name := "PREFECT_ORION_DATABASE_CONNECTION_TIMEOUT", kind := .float,
    defaultValue := .fixed (.float (Binary64.ofInt 5)), validator := .positive,
    description := "Seconds to wait for a database connection" },
  { name := "PREFECT_ORION_SERVICES_SCHEDULER_LOOP_SECONDS", kind := .float,
    defaultValue := .fixed (.float (Binary64.ofInt 60)), validator := .positive,
    description := "Seconds between scheduler service runs" },
  { name := "PREFECT_ORION_API_HOST", kind := .string,
    defaultValue := .fixed (.string "127.0.0.1"), description := "Host the API binds to" },
  { name := "PREFECT_ORION_API_PORT", kind := .integer, defaultValue := .fixed (.integer 4200),
    validator := .port, description := "Port the API binds to" },
  { name := "PREFECT_ORION_UI_ENABLED", kind := .boolean, defaultValue := .fixed (.boolean true),
    description := "Serve the web UI" }]

/-- The registry of the built-in settings. -/
def Registry.builtin (home : Home) : Registry := ⟨builtinPrefix, home, builtinDefinitions⟩

end LayeredSettings
