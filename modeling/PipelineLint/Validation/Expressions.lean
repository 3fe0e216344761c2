import PipelineLint.Diagnosis
import PipelineLint.Expression.Lint
import PipelineLint.Validation.Field

set_option autoImplicit false

namespace PipelineLint.Validation

def expressionKeys : List String := [
  "mapping", "bloblang", "mutation", "check", "request_map", "result_map", "fields_mapping",
  "document_map", "filter_map", "timestamp_mapping"
]

def queryParents : List String := ["mapping", "bloblang"]

def queryKey : String := "query"

def joinPath (path key : String) : String :=
  if path = "" then key else keyed path key

def isOneOf (names : List String) (key : Scalar) : Bool :=
  match key with
  | .str name => names.contains name
  | _ => false

def textFindings (path text : String) : List Finding :=
  if Text.occursIn Expression.opener text.toList then Expression.lintInterpolations text path
  else []

def queryFindings (path : String) (entries : Entries) : List Finding :=
  match Entries.field? entries queryKey with
  | some (.str query) => Expression.lint query (keyed path queryKey)
  | _ => []

mutual

def findings (path : String) : Value → List Finding
  | .scalar s =>
      match s with
      | .str text => textFindings path text
      | _ => []
  | .list items => itemFindings path 0 items
  | .map entries => entryFindings false path entries
termination_by structural value => value

def itemFindings (path : String) (index : Nat) : List Value → List Finding
  | [] => []
  | item :: rest => findings (indexed path index) item ++ itemFindings path (index + 1) rest
termination_by structural items => items

-- The findings in the entries of a mapping; below the parent of a query the query itself is left out.
def entryFindings (belowParent : Bool) (path : String) : List (Scalar × Value) → List Finding
  | [] => []
  | (key, value) :: rest =>
      (if belowParent && isOneOf [queryKey] key then []
       else
        let inner := joinPath path key.display
        match value with
        | .scalar s =>
            match s with
            | .str text =>
                if isOneOf expressionKeys key then Expression.lint text inner
                else textFindings inner text
            | _ => []
        | .list items => itemFindings inner 0 items
        | .map entries =>
            if isOneOf queryParents key then
              queryFindings inner entries ++ entryFindings true inner entries
            else entryFindings false inner entries) ++
        entryFindings belowParent path rest
termination_by structural entries => entries

end

def findingProblem (finding : Finding) : Problem :=
  ⟨finding.location, finding.message, finding.suggestion⟩

def expressionProblems (entries : Entries) : List Problem :=
  (findings "" (.map entries)).map findingProblem

end PipelineLint.Validation
