import PipelineLint.Value.Basic

set_option autoImplicit false

namespace PipelineLint

inductive Category where
  | input
  | processor
  | output
  | cache
  | rateLimit
  | buffer
deriving DecidableEq, Inhabited

namespace Category

def all : List Category := [.input, .processor, .output, .cache, .rateLimit, .buffer]

def name : Category → String
  | .input => "input"
  | .processor => "processor"
  | .output => "output"
  | .cache => "cache"
  | .rateLimit => "rate_limit"
  | .buffer => "buffer"

def label : Category → String
  | .rateLimit => "rate limit"
  | other => other.name

def ofName? (name : String) : Option Category :=
  all.find? (·.name == name)

theorem mem_all (c : Category) : c ∈ all := by
  cases c <;> decide

theorem name_injective {a b : Category} (same : a.name = b.name) : a = b := by
  cases a <;> cases b <;> first | rfl | exact absurd same (by decide)

theorem ofName?_name (c : Category) : ofName? c.name = some c := by
  cases c <;> decide

end Category

-- Where a look-up searches: in all categories, in one, or in one that does not exist.
inductive Scope where
  | everywhere
  | within (category : Category)
  | unknown (name : String)
deriving DecidableEq

namespace Scope

def ofName : Option String → Scope
  | none => .everywhere
  | some name =>
      match Category.ofName? name with
      | some category => .within category
      | none => .unknown name

def categories : Scope → List Category
  | .everywhere => Category.all
  | .within category => [category]
  | .unknown _ => []

def name? : Scope → Option String
  | .everywhere => none
  | .within category => some category.name
  | .unknown name => some name

end Scope

inductive FieldKind where
  | string
  | number
  | boolean
  | array
  | object
  | duration
  | bloblang
  | interpolatedString
deriving DecidableEq, Inhabited

namespace FieldKind

def all : List FieldKind :=
  [.string, .number, .boolean, .array, .object, .duration, .bloblang, .interpolatedString]

def name : FieldKind → String
  | .string => "string"
  | .number => "number"
  | .boolean => "boolean"
  | .array => "array"
  | .object => "object"
  | .duration => "duration"
  | .bloblang => "bloblang"
  | .interpolatedString => "interpolated_string"

def ofName? (name : String) : Option FieldKind :=
  all.find? (·.name == name)

end FieldKind

structure FieldSpec where
  kind : FieldKind
  description : String := ""
  required : Bool := false
  defaultValue : Value := .null
  enum : List String := []
  items : Option FieldSpec := none
  properties : List (String × FieldSpec) := []
  examples : List Value := []

structure ComponentSpec where
  name : String
  category : Category
  description : String := ""
  fields : List (String × FieldSpec) := []
  examples : List String := []
  docs : Option String := none

namespace ComponentSpec

def field? (spec : ComponentSpec) (name : String) : Option FieldSpec :=
  spec.fields.lookup name

def scalarField? (spec : ComponentSpec) : Option FieldSpec :=
  spec.field? ""

def requiredFields (spec : ComponentSpec) : List String :=
  (spec.fields.filter fun field => field.2.required).map Prod.fst

end ComponentSpec

end PipelineLint
