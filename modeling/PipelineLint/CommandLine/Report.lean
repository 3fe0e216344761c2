import PipelineLint.Check
import PipelineLint.CommandLine.Markup

set_option autoImplicit false

namespace PipelineLint.CommandLine

open Markup (escape)

def block (heading : String) (lines : List String) : List String :=
  if lines.isEmpty then [] else "" :: heading :: lines

def problemLines (problem : Problem) : List String :=
  let hint :=
    match problem.suggestion with
    | some suggestion => if suggestion = "" then [] else ["    → " ++ escape suggestion]
    | none => []
  ("  ✗ " ++ escape problem.path ++ ": " ++ escape problem.message) :: hint

def fixLine (description : String) : String :=
  "  ✓ " ++ escape description

def suggestionLine (fix : Repair.Fix) : String :=
  "  ℹ " ++ escape fix.found ++ " -> " ++ escape (", ".intercalate fix.candidates) ++ " (" ++
    fix.confidence.name ++ ")"

def placedSuggestionLine (fix : Repair.Fix) : String :=
  let place :=
    match fix.line with
    | some line =>
        if line = 0 then "" else " (line " ++ String.ofList (Numeral.intText line) ++ ")"
    | none => ""
  suggestionLine fix ++ place

def checkLines (file : String) (check : Check) : List String :=
  let diagnosis := check.diagnosis
  let verdict :=
    if diagnosis.isValid then "✓ Validation successful: " ++ file
    else "✗ Validation failed: " ++ file
  let fixes := (check.repaired.map Repaired.descriptions).getD []
  let suggestions := (check.repaired.map Repaired.suggestions).getD []
  ["", verdict] ++
    block "Fixes applied:" (fixes.map fixLine) ++
    block "Warnings:" (diagnosis.warnings.map fun warning => "  ⚠ " ++ escape warning) ++
    block "Errors:" (diagnosis.errors.flatMap problemLines) ++
    block "Suggestions:" (suggestions.map suggestionLine) ++
    [""]

def repairLines (file : String) (written : Bool) (repaired : Repaired) : List String :=
  let summary :=
    if repaired.isModified then
      ((if written then "✓ Fixed: " else "✓ Fixes for: ") ++ file) ::
        repaired.descriptions.map fixLine
    else ["✓ No fixes needed: " ++ file]
  let suggestions :=
    if repaired.suggestions.isEmpty then []
    else "Suggestions (not applied):" :: repaired.suggestions.map placedSuggestionLine
  summary ++ suggestions

def repairEntries (repaired : Repaired) : Entries := [
  (.str "fixed_yaml", .str repaired.text),
  (.str "fixes_applied", .list (repaired.descriptions.map Value.str)),
  (.str "suggested_fixes", .list (repaired.suggestions.map fun fix => .map fix.toEntries)),
  (.str "passes", .int repaired.passes)]

end PipelineLint.CommandLine
