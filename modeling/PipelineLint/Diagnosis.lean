import PipelineLint.Value.Basic

set_option autoImplicit false

namespace PipelineLint

structure Problem where
  path : String
  message : String
  suggestion : Option String := none
deriving DecidableEq

def rootPath : String := "root"

structure Diagnosis where
  errors : List Problem := []
  warnings : List String := []
deriving DecidableEq

namespace Diagnosis

def isValid (diagnosis : Diagnosis) : Bool :=
  diagnosis.errors.isEmpty

-- The errors and warnings of both; a warning of the second that the first has too is left out.
def merge (first second : Diagnosis) : Diagnosis :=
  { errors := first.errors ++ second.errors
    warnings := first.warnings ++ second.warnings.filter fun w => !first.warnings.contains w }

def problemValue (problem : Problem) : Value :=
  let suggestion :=
    match problem.suggestion with
    | some suggestion => [(.str "suggestion", .str suggestion)]
    | none => []
  .map ([(.str "path", .str problem.path), (.str "message", .str problem.message)] ++ suggestion)

def toEntries (diagnosis : Diagnosis) : Entries := [
  (.str "valid", .bool diagnosis.isValid),
  (.str "errors", .list (diagnosis.errors.map problemValue)),
  (.str "warnings", .list (diagnosis.warnings.map Value.str))]

def problemLines (problem : Problem) : List String :=
  let headline := "  • " ++ problem.path ++ ": " ++ problem.message
  match problem.suggestion with
  | some suggestion => if suggestion = "" then [headline] else [headline, "    → " ++ suggestion]
  | none => [headline]

def render (diagnosis : Diagnosis) : String :=
  let head :=
    if diagnosis.isValid then ["✓ Pipeline configuration is valid"]
    else ["✗ Pipeline validation failed:", ""] ++ diagnosis.errors.flatMap problemLines
  let tail :=
    if diagnosis.warnings.isEmpty then []
    else ["", "Warnings:"] ++ diagnosis.warnings.map ("  ! " ++ ·)
  "\n".intercalate (head ++ tail)

end Diagnosis

end PipelineLint
