import PipelineLint.Settings.Basic

set_option autoImplicit false

namespace PipelineLint.Settings

def knownKeys : List String := [
  "logging", "max_fix_iterations", "auto_fix", "compatibility_checks", "warning_severity",
  "external"
]

def logLevels : List String := ["DEBUG", "INFO", "WARNING", "ERROR", "CRITICAL"]

def logFormats : List String := ["console", "json", "structured", "rich"]

def defaultTimeout : Value := .float (Binary64.ofDecimal false 10 0)

def isKnownKey : Scalar → Bool
  | .str name => knownKeys.contains name
  | _ => false

def noticeKey (key : Scalar) : Reading Unit :=
  if isKnownKey key then pure ()
  else if key.isShowable then Reading.notice (.unknownSetting key)
  else throw .integerTooLong

def settingOr (table : Entries) (name : String) (absent : Value) : Value :=
  (Entries.field? table name).getD absent

def switchVariable? (env : Environment) (name : String) : Reading (Option Bool) :=
  match Environment.given? env name with
  | none => return none
  | some text =>
      match Environment.readSwitch text with
      | .ok on => return some on
      | .error fault => do
          Reading.notice (.badSwitch name fault)
          return none

def requireBool (name : String) (value : Value) : Reading Bool :=
  match value with
  | .bool b => return b
  | other => Reading.refuse name (.notBoolean other)

def tableSection (table : Entries) (name : String) : Reading Entries :=
  match settingOr table name (.map []) with
  | .map entries => return entries
  | _ => Reading.refuse name .notSection

def readMaxPasses (env : Environment) (table : Entries) : Reading Value :=
  let name := "PIPECHECK_MAX_FIX_ITERATIONS"
  match Environment.given? env name with
  | none => return settingOr table "max_fix_iterations" (.int 10)
  | some text =>
      match Numeral.settingInteger? text.toList with
      | some i => return .int i
      | none => Reading.refuse name (.notInteger text)

def readCompatibility (env : Environment) (table : Entries) : Reading Value := do
  match ← switchVariable? env "PIPECHECK_COMPATIBILITY_CHECKS" with
  | some on => return .bool on
  | none => return settingOr table "compatibility_checks" (.bool true)

def floorValue (env : Environment) (table : Entries) : Value :=
  match Environment.given? env "PIPECHECK_WARNING_SEVERITY" with
  | some text => .str (lowered text)
  | none => settingOr table "warning_severity" (.str "warning")

def shownSetting (table : Entries) (name absent : String) : Reading String :=
  let value := settingOr table name (.str absent)
  if value.isShowable then return value.display else throw .integerTooLong

-- A text from the environment, else from the table, else as given. The one from the table is made first, even if the
-- environment has another.
def textSetting (env : Environment) (override : String) (table : Entries) (name absent : String) :
    Reading String := do
  let shown ← shownSetting table name absent
  return (Environment.given? env override).getD shown

def logFile (env : Environment) (table : Entries) : Value :=
  match Environment.given? env "PIPECHECK_LOG_FILE" with
  | some path => .str path
  | none => Entries.fieldOrNull table "output_file"

def makeLog (level format : String) (outputFile useColor includeTimestamp : Value) :
    Reading LogSettings :=
  if !logLevels.contains level then Reading.refuse "logging.level" (.unknownLevel level)
  else if !logFormats.contains format then Reading.refuse "logging.format" (.unknownFormat format)
  else return { level, format, outputFile, useColor, includeTimestamp }

def readLog (env : Environment) (table : Entries) : Reading LogSettings := do
  let level ← textSetting env "PIPECHECK_LOG_LEVEL" table "level" "WARNING"
  let format ← textSetting env "PIPECHECK_LOG_FORMAT" table "format" "structured"
  let switched ← switchVariable? env "PIPECHECK_LOG_COLOR"
  makeLog (uppered level) (lowered format) (logFile env table)
    ((switched.map Value.bool).getD (settingOr table "use_color" (.bool true)))
    (settingOr table "include_timestamp" (.bool true))

-- The timeout of the service, not yet known to be a number.
def readTimeout (env : Environment) (table : Entries) : Reading Value :=
  let name := "PIPECHECK_EXTERNAL_TIMEOUT"
  match Environment.given? env name with
  | none => return settingOr table "timeout" defaultTimeout
  | some text =>
      match Numeral.settingFloat? text.toList with
      | some x => return .float x
      | none => Reading.refuse name (.notDecimal text)

def requireTimeout (value : Value) : Reading Value :=
  match value with
  | .float x => return .float x
  | .int i =>
      match Binary64.ofInt? i with
      | some x => return .float x
      | none => throw .timeoutTooLarge
  | other => Reading.refuse "external.timeout" (.notNumber other)

-- The service settings. A URL in the environment also enables the service.
def readService (env : Environment) (table : Entries) : Reading ServiceSettings := do
  let override := Environment.given? env "PIPECHECK_EXTERNAL_URL"
  let enabled := override.isSome || (Entries.fieldOrNull table "enabled").isTruthy
  let url := (override.map Value.str).getD (Entries.fieldOrNull table "url")
  let timeout ← requireTimeout (← readTimeout env table)
  Reading.ofExcept (ServiceSettings.make enabled url timeout)

def ofTable (env : Environment) (table : Entries) : Reading Settings := do
  (Entries.keys table).forM noticeKey
  let maxPasses ← readMaxPasses env table
  let compatibility ← readCompatibility env table
  let repairs ← requireBool "auto_fix" (settingOr table "auto_fix" (.bool true))
  let compatibility ← requireBool "compatibility_checks" compatibility
  let log ← readLog env (← tableSection table "logging")
  let service ← readService env (← tableSection table "external")
  Reading.ofExcept (make log maxPasses repairs compatibility (floorValue env table) service)

-- Settings from a table in whose texts references to the environment are replaced first.
def ofTemplate (env : Environment) (table : Entries) : Reading Settings :=
  ofTable env (Environment.substituteEntries env table)

def byDefault (env : Environment) : Reading Settings :=
  ofTable env []

-- Settings from given values, those of the service apart. Anything that counts as given turns a switch on.
def ofValues (values service : Entries) : Except Fault Settings := do
  let service ← ServiceSettings.make (Entries.fieldOrNull service "enabled").isTruthy
    (Entries.fieldOrNull service "url") (settingOr service "timeout" defaultTimeout)
  make {} (settingOr values "max_fix_iterations" (.int 10))
    (settingOr values "auto_fix" (.bool true)).isTruthy
    (settingOr values "compatibility_checks" (.bool true)).isTruthy
    (settingOr values "warning_severity" (.str "warning")) service

end PipelineLint.Settings
