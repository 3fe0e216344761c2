import PipelineLint.Finding
import PipelineLint.Notice
import PipelineLint.Yaml.Cursor

set_option autoImplicit false

namespace PipelineLint

structure LogSettings where
  level : String := "WARNING"
  format : String := "structured"
  outputFile : Value := .null
  useColor : Value := .bool true
  includeTimestamp : Value := .bool true

structure ServiceSettings where
  enabled : Bool := false
  url : Value := .null
  timeout : Value

structure Settings where
  log : LogSettings := {}
  maxPasses : Value := .int 10
  repairs : Bool := true
  compatibility : Bool := true
  floor : Severity := .warning
  service : ServiceSettings

namespace Settings

inductive Cause where
  | notBoolean (value : Value)
  | notSection
  | unknownLevel (level : String)
  | unknownFormat (format : String)
  | notInteger (text : String)
  | notDecimal (text : String)
  | notNumber (value : Value)
  | notPositive (value : Value)
  | noUrl
  | notPositiveInteger (value : Value)
  | unknownSeverity (value : Value)
  | malformedTable
  | malformedManifest
  | notManifest (kind : String)
  | otherManifest (kind : String)
  | specNotMapping

def Cause.text : Cause → String
  | .notBoolean value => "must be a boolean (got " ++ value.literal ++ ")"
  | .notSection => "must be a table/mapping"
  | .unknownLevel level => "unknown level " ++ quotedText level
  | .unknownFormat format => "unknown format " ++ quotedText format
  | .notInteger text => "not an integer: " ++ quotedText text
  | .notDecimal text => "not a number: " ++ quotedText text
  | .notNumber value => "must be a number (got " ++ value.literal ++ ")"
  | .notPositive value => "must be positive (got " ++ value.display ++ ")"
  | .noUrl => "required when external.enabled is true"
  | .notPositiveInteger value => "must be a positive integer (got " ++ value.literal ++ ")"
  | .unknownSeverity value =>
      "must be one of error, warning, info (got " ++ value.literal ++ ")"
  | .malformedTable => "invalid TOML:"
  | .malformedManifest => "invalid YAML:"
  | .notManifest kind => "expected a mapping, got " ++ kind
  | .otherManifest kind =>
      "must use 'kind: Config' manifest format, got 'kind: " ++ kind ++ "'"
  | .specNotMapping => "'spec' must be a mapping"

def Cause.isShowable : Cause → Bool
  | .notBoolean value => value.isShowable
  | .notNumber value => value.isShowable
  | .notPositive value => value.isShowable
  | .notPositiveInteger value => value.isShowable
  | .unknownSeverity value => value.isShowable
  | _ => true

inductive Fault where
  | refused (subject : String) (cause : Cause)
  | notFound (path : String)
  | directory
  | undecodable
  | integerTooLong
  | timeoutTooLarge
  | timeoutNotNumber
  | sectionNotTable
  | sectionNotListable
  | badManifestValue (fault : Yaml.Fault)

def Fault.ofCause (subject : String) (cause : Cause) : Fault :=
  if cause.isShowable then .refused subject cause else .integerTooLong

def Fault.message : Fault → String
  | .refused subject cause => "Configuration error in '" ++ subject ++ "': " ++ cause.text
  | .notFound path => "Configuration file not found: " ++ path
  | .directory => "The configuration file is a directory"
  | .undecodable => "The configuration file is not UTF-8"
  | .integerTooLong => "An integer in the configuration has too many digits"
  | .timeoutTooLarge => "The timeout is too large"
  | .timeoutNotNumber => "The timeout is not a number"
  | .sectionNotTable => "The configuration section is not a table"
  | .sectionNotListable => "The configuration section is a single value"
  | .badManifestValue _ => "A value in the configuration manifest has no meaning"

-- Reading settings: notices come out whether it succeeds or not.
abbrev Reading (α : Type) := ExceptT Fault (StateM (List Notice)) α

namespace Reading

def notice (notice : Notice) : Reading Unit :=
  modify fun notices => notices ++ [notice]

def refuse {α : Type} (subject : String) (cause : Cause) : Reading α :=
  throw (.ofCause subject cause)

def ofExcept {α : Type} : Except Fault α → Reading α
  | .ok value => return value
  | .error fault => throw fault

def outcome {α : Type} (reading : Reading α) : Except Fault α × List Notice :=
  (ExceptT.run reading).run []

end Reading

end Settings

namespace Value

def isPositive? : Value → Option Bool
  | .int i => some (decide (0 < i))
  | .float x => some x.isPositiveOrNan
  | .bool b => some b
  | _ => none

def isPositiveInteger : Value → Bool
  | .int i => decide (0 < i)
  | .bool b => b
  | _ => false

end Value

def ServiceSettings.make (enabled : Bool) (url timeout : Value) :
    Except Settings.Fault ServiceSettings :=
  if enabled && !url.isTruthy then .error (.refused "external.url" .noUrl)
  else
    match timeout.isPositive? with
    | none => .error .timeoutNotNumber
    | some false => .error (.ofCause "external.timeout" (.notPositive timeout))
    | some true => .ok { enabled, url, timeout }

namespace Settings

def severity? : Value → Option Severity
  | .str "error" => some .error
  | .str "warning" => some .warning
  | .str "info" => some .info
  | _ => none

def make (log : LogSettings) (maxPasses : Value) (repairs compatibility : Bool) (floor : Value)
    (service : ServiceSettings) : Except Fault Settings :=
  if maxPasses.isPositiveInteger then
    match severity? floor with
    | some floor => .ok { log, maxPasses, repairs, compatibility, floor, service }
    | none => .error (.ofCause "warning_severity" (.unknownSeverity floor))
  else .error (.ofCause "max_fix_iterations" (.notPositiveInteger maxPasses))

def passLimit (settings : Settings) : Nat :=
  match settings.maxPasses with
  | .int i => i.toNat
  | _ => 1

end Settings

end PipelineLint
