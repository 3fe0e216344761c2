import PipelineLint.Catalog.Aliases
import PipelineLint.Catalog.Builtin
import PipelineLint.Catalog.Names
import PipelineLint.Name.Nearest

set_option autoImplicit false

namespace PipelineLint

inductive Evidence where
  | misspelling
  | case
  | snakeCase
  | ambiguity
  | kind
  | beginning
  | similarity
deriving DecidableEq

def Evidence.name : Evidence → String
  | .misspelling => "typo"
  | .case => "case"
  | .snakeCase => "snake_case"
  | .ambiguity => "ambiguous"
  | .kind => "kind"
  | .beginning => "prefix"
  | .similarity => "fuzzy"

structure Resolution where
  candidates : List String
  confidence : Confidence
  evidence : Evidence
  reason : String := ""
deriving DecidableEq

namespace Resolution

def sure (target : String) (evidence : Evidence) : Resolution :=
  { candidates := [target], confidence := .high, evidence }

def replacement? (resolution : Resolution) : Option String :=
  match resolution.confidence, resolution.candidates with
  | .high, [target] => some target
  | _, _ => none

end Resolution

namespace Catalog

def misspelledComponent? (name : String) (category : Category) : Option String :=
  [name, lowered name].findSome? fun key =>
    [directedMisspellings category, componentMisspellings].findSome? fun table =>
      (table.lookup key).filter (isKnown · category)

def ambiguousComponent? (name : String) (category : Category) : Option Resolution :=
  match ambiguousComponents.lookup (lowered name) with
  | some ambiguity =>
      match ambiguity.candidates.filter (isKnown · category) with
      | [] => none
      | candidates => some ⟨candidates, ambiguity.confidence, .ambiguity, ambiguity.reason⟩
  | none => none

def suggest (name : String) (category : Category) : List String :=
  Name.nearest name (names category)

def resolveComponent (name : String) (category : Category) : Option Resolution :=
  if isKnown name category then none
  else
    match misspelledComponent? name category with
    | some target => some (.sure target .misspelling)
    | none =>
        if isKnown (lowered name) category then some (.sure (lowered name) .case)
        else
          match ambiguousComponent? name category with
          | some resolution => some resolution
          | none =>
              match suggest name category with
              | [] => none
              | similar => some { candidates := similar, confidence := .low, evidence := .similarity }

def misspellings : CallKind → Misspellings
  | .method => methodMisspellings
  | .function => functionMisspellings

def ambiguities : CallKind → List (String × Ambiguity)
  | .method => ambiguousMethods
  | .function => ambiguousFunctions

-- The target of a misspelled call, looked up as written and then with case aside.
def misspelledCall? (name : String) (kind : CallKind) : Option String :=
  match (misspellings kind).lookup name with
  | some target => some target
  | none => ((misspellings kind).find? fun entry => lowered entry.1 == lowered name).map Prod.snd

-- The entry of an ambiguous call, looked up as written and then in small letters.
def ambiguousCall? (name : String) (kind : CallKind) : Option Ambiguity :=
  match (ambiguities kind).lookup name with
  | some ambiguity => some ambiguity
  | none => (ambiguities kind).lookup (lowered name)

def beginningLength : Nat := 4

-- At most three names of a kind that begin like the given one, in increasing order.
def sameBeginning (snake : String) (kind : CallKind) : List String :=
  let letters := snake.toList
  if letters.length < beginningLength then []
  else
    let hits := kind.names.filter fun known =>
      (letters.take beginningLength).isPrefixOf known.toList
    (hits.mergeSort fun a b => !(b < a)).take 3

def resolveCall (name : String) (kind : CallKind) : Option Resolution :=
  let snake := Name.snakeCase name
  if kind.names.contains name then none
  else
    match misspelledCall? name kind with
    | some target => some (.sure target .misspelling)
    | none =>
        if snake != name && kind.names.contains snake then some (.sure snake .snakeCase)
        else if kind.names.contains (lowered name) then some (.sure (lowered name) .case)
        else
          match ambiguousCall? name kind with
          | some ambiguity =>
              some ⟨ambiguity.candidates, ambiguity.confidence, .ambiguity, ambiguity.reason⟩
          | none =>
              if kind.other.names.contains name then
                some ⟨[name], .low, .kind, "\"" ++ name ++ "\" is a " ++ kind.other.name⟩
              else
                match sameBeginning snake kind with
                | [] => none
                | similar =>
                    some { candidates := similar, confidence := .low, evidence := .beginning }

end Catalog

end PipelineLint
