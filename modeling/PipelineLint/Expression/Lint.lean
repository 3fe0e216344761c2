import PipelineLint.Catalog.Resolution
import PipelineLint.Expression.AntiPattern
import PipelineLint.Expression.Call
import PipelineLint.Expression.Interpolation

set_option autoImplicit false

namespace PipelineLint.Expression

-- What a called name is. A name that is neither known nor plausible is left alone.
inductive Verdict where
  | known
  | misnamed (resolution : Option Resolution)
  | ignored
deriving DecidableEq

def Verdict.name : Verdict → String
  | .known => "known"
  | .misnamed _ => "misnamed"
  | .ignored => "ignore"

def Verdict.resolution? : Verdict → Option Resolution
  | .misnamed resolution => resolution
  | _ => none

def hasPlausibleStart (name : List Char) : Bool :=
  "parse".toList.isPrefixOf name || "format".toList.isPrefixOf name ||
    ["to", "get", "is", "has"].any fun start =>
      start.toList.isPrefixOf name &&
        (name.drop start.length).head?.any fun c => c = '_' || c.isUpper

-- Whether an unknown name was plausibly meant to be a function or method of the language.
def isPlausible (name : String) (kind : CallKind) : Bool :=
  (name != lowered name && name != uppered name) ||
    (Catalog.misspellings kind).any (fun entry => lowered entry.1 == lowered name) ||
    (Catalog.ambiguities kind).any (fun entry => entry.1 == name) ||
    (Catalog.ambiguities kind).any (fun entry => entry.1 == lowered name) ||
    kind.other.names.contains name ||
    hasPlausibleStart name.toList

def classify (name : String) (kind : CallKind) : Verdict :=
  if kind.names.contains name then .known
  else if isPlausible name kind then .misnamed (Catalog.resolveCall name kind)
  else .ignored

def misnamedRule : CallKind → String
  | .method => "B200"
  | .function => "B201"

def misnamedText (name : String) (kind : CallKind) (resolution : Option Resolution) :
    String × String :=
  let unknown := "Unknown Bloblang " ++ kind.name ++ " \"" ++ kind.render name ++ "\""
  match resolution with
  | none => (unknown, "Check the Bloblang " ++ kind.name ++ " reference for valid names")
  | some resolution =>
      if resolution.evidence = .kind then
        match kind with
        | .method =>
            ("\"" ++ name ++ "\" is a function, not a method",
              "Call it without a receiver: " ++ name ++ "()")
        | .function =>
            ("\"" ++ name ++ "\" is a method, not a function",
              "Call it on a value: this." ++ name ++ "()")
      else
        match resolution.candidates.map kind.render with
        | [] => (unknown, "Check the Bloblang " ++ kind.name ++ " reference for valid names")
        | first :: others =>
            let advice :=
              if resolution.replacement?.isSome then "Use " ++ first ++ " instead"
              else "Did you mean: " ++ ", ".intercalate (first :: others) ++ "?"
            let reason := if resolution.reason = "" then "" else " (" ++ resolution.reason ++ ")"
            (unknown, advice ++ reason)

def misnamedFinding (name : String) (kind : CallKind) (resolution : Option Resolution)
    (location : String) : Finding :=
  let (message, suggestion) := misnamedText name kind resolution
  ⟨misnamedRule kind, .error, message, location, some suggestion⟩

def callFinding? (location : String) (call : String × CallKind) : Option Finding :=
  match classify call.1 call.2 with
  | .misnamed resolution => some (misnamedFinding call.1 call.2 resolution location)
  | _ => none

-- The names that an expression calls and how, each once and in order of appearance.
def calledNames (text : List Char) : List (String × CallKind) :=
  Name.distinct ((orderedCalls text).map fun site => (String.ofList site.name, site.kind))

def lint (expression location : String) : List Finding :=
  let text := expression.toList
  let mistakes := AntiPattern.all.filter fun mistake => mistake.fires text
  let claimed := mistakes.flatMap AntiPattern.claims
  mistakes.map (AntiPattern.finding · location) ++
    ((calledNames text).filter fun call => !claimed.contains call.1).filterMap
      (callFinding? location)

-- The findings in the interpolations of a text, which are linted as one expression.
def lintInterpolations (value location : String) : List Finding :=
  match (interpolations value.toList).map Interpolation.body with
  | [] => []
  | bodies => lint (String.ofList (['\n'].intercalate bodies)) location

end PipelineLint.Expression
