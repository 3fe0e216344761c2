set_option autoImplicit false

namespace PipelineLint

inductive Severity where
  | error
  | warning
  | info
  | other (name : String)
deriving DecidableEq, Inhabited

namespace Severity

def name : Severity → String
  | .error => "error"
  | .warning => "warning"
  | .info => "info"
  | .other name => name

def ofName (name : String) : Severity :=
  if name = "error" then .error
  else if name = "warning" then .warning
  else if name = "info" then .info
  else .other name

def rank? : Severity → Option Nat
  | .info => some 0
  | .warning => some 1
  | .error => some 2
  | .other _ => none

end Severity

structure Finding where
  rule : String
  severity : Severity
  message : String
  location : String := ""
  suggestion : Option String := none
deriving DecidableEq

inductive RankFault where
  | unknownSeverity
deriving DecidableEq

namespace Finding

def atLeast (finding : Finding) (floor : Severity) : Except RankFault Bool :=
  match finding.severity.rank?, floor.rank? with
  | some rank, some least => .ok (least ≤ rank)
  | _, _ => .error .unknownSeverity

def warning (finding : Finding) : String :=
  finding.rule ++ ": " ++ finding.message

end Finding

abbrev Report := List Finding

namespace Report

def ofSeverity (report : Report) (severity : Severity) : List Finding :=
  report.filter fun finding => decide (finding.severity = severity)

def atLeast (report : Report) (floor : Severity) : Except RankFault (List Finding) :=
  report.filterM fun finding => finding.atLeast floor

def warnings (report : Report) (floor : Severity) : Except RankFault (List String) :=
  (atLeast report floor).map fun findings => findings.map Finding.warning

end Report

end PipelineLint
