import PipelineLint.Catalog.Inputs
import PipelineLint.Catalog.Outputs
import PipelineLint.Catalog.Processors
import PipelineLint.Catalog.Resources
import PipelineLint.Catalog.Resolution
import PipelineLint.Text.Blank

set_option autoImplicit false

namespace PipelineLint

structure UnknownComponent where
  name : String
  category : Option String
  suggestions : List String
deriving DecidableEq

def UnknownComponent.message (unknown : UnknownComponent) : String :=
  let place :=
    match unknown.category with
    | none => ""
    | some category => if category = "" then "" else " " ++ category
  let hint :=
    if unknown.suggestions.isEmpty then ""
    else ". Did you mean: " ++ ", ".intercalate unknown.suggestions ++ "?"
  "Unknown" ++ place ++ " component '" ++ unknown.name ++ "'" ++ hint

namespace Catalog

def specs : Category → List ComponentSpec
  | .input => inputs
  | .processor => processors
  | .output => outputs
  | .cache => caches
  | .rateLimit => rateLimits
  | .buffer => buffers

def specIn? (name : String) (category : Category) : Option ComponentSpec :=
  (specs category).find? (·.name == name)

def spec? (name : String) (scope : Scope) : Option ComponentSpec :=
  scope.categories.findSome? (specIn? name)

-- Like `spec?`, with suggestions if nothing is known.
def requireSpec (name : String) (scope : Scope) : Except UnknownComponent ComponentSpec :=
  match spec? name scope with
  | some spec => .ok spec
  | none =>
      let pool := scope.categories.flatMap fun c => (specs c).map (·.name)
      .error ⟨name, scope.name?, Name.nearest name pool⟩

def sortedTexts (texts : List String) : List String :=
  texts.mergeSort fun a b => !(b < a)

def listSpecs (scope : Scope) : List ComponentSpec :=
  scope.categories.flatMap fun c => (specs c).mergeSort fun a b => !(b.name < a.name)

def mentions (needle : List Char) (text : String) : Bool :=
  Text.occursIn needle (Text.lower text.toList)

-- The documented components with the query in their name, and then those that have it in their description alone. A blank
-- query finds all.
def searchSpecs (query : String) (scope : Scope) : List ComponentSpec :=
  let needle := Text.trim (Text.lower query.toList)
  let all := listSpecs scope
  if needle.isEmpty then all
  else
    let byName := all.filter fun spec => mentions needle spec.name
    let byText := all.filter fun spec =>
      !mentions needle spec.name && mentions needle spec.description
    byName ++ byText

def listNames : Scope → List (String × List String)
  | .unknown name => [(name, [])]
  | scope => scope.categories.map fun c => (c.name, names c)

end Catalog

namespace Builtin

def categories : List String :=
  Catalog.sortedTexts (Name.distinct (all.map category))

def inCategory (category : String) : List Builtin :=
  if category = "all" then all
  else if category = "functions" then functions
  else if category = "methods" then methods
  else all.filter (·.category == category)

def search (query : String) : List Builtin :=
  let needle := Text.lower query.toList
  all.filter fun item =>
    Catalog.mentions needle item.name || Catalog.mentions needle item.signature ||
      Catalog.mentions needle item.description

def find? (name : String) : Option Builtin :=
  all.find? (·.name == name)

-- The entries that match a query within a group: an exact name alone, otherwise what a search finds. An empty query gives the
-- whole group.
def lookup (query : String) (category : Option String) : List Builtin :=
  let group := match category with
    | some c => if c = "" then "all" else c
    | none => "all"
  let scope := inCategory group
  if query = "" then scope
  else
    match (find? query).filter scope.contains with
    | some exact => [exact]
    | none => (search query).filter scope.contains

end Builtin

end PipelineLint
