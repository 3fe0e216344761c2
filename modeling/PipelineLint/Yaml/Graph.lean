import PipelineLint.Value.Display
import PipelineLint.Value.SetOrder
import PipelineLint.Yaml.Cursor

set_option autoImplicit false

namespace PipelineLint.Yaml

inductive Thing where
  | scalar (s : Scalar)
  | list (items : List Nat)
  | pairs (items : List (Nat × Nat))
  | map (entries : List (Scalar × Nat))
  | set (elements : List Scalar)

structure Graph where
  things : Array Thing
  root : Nat

-- A place that can be inside of itself: a thing, or one of the pairs of a thing.
inductive Spot where
  | thing (number : Nat)
  | pair (number index : Nat)
deriving DecidableEq

namespace Graph

def thing (graph : Graph) (number : Nat) : Thing :=
  graph.things.getD number (.scalar .null)

-- The number of calls that can be nested without coming back to a spot: each is at a thing or at a pair in one.
def depthLimit (graph : Graph) : Nat :=
  2 * graph.things.size + 2

def enclosed (opening : String) (parts : List String) (closing : String) : String :=
  opening ++ ", ".intercalate parts ++ closing

def setLiteral (elements : List Scalar) : String :=
  if elements.isEmpty then "set()"
  else enclosed "\x7b" ((setOrder elements).map Scalar.literal) "\x7d"

mutual

def literalInside (graph : Graph) : (limit : Nat) → List Spot → Nat → String
  | 0, _, _ => ""
  | limit + 1, around, number =>
      let inside := .thing number :: around
      match graph.thing number with
      | .scalar s => s.literal
      | .set elements => setLiteral elements
      | .list items =>
          if around.contains (.thing number) then "[...]"
          else enclosed "[" (items.map fun item => graph.literalInside limit inside item) "]"
      | .pairs items =>
          if around.contains (.thing number) then "[...]"
          else
            enclosed "[" (items.mapIdx fun index pair =>
              graph.pairLiteral limit inside number index pair) "]"
      | .map entries =>
          if around.contains (.thing number) then "\x7b...\x7d"
          else
            enclosed "\x7b" (entries.map fun (key, value) =>
              key.literal ++ ": " ++ graph.literalInside limit inside value) "\x7d"

def pairLiteral (graph : Graph) : (limit : Nat) → List Spot → (number index : Nat) → Nat × Nat →
    String
  | 0, _, _, _, _ => ""
  | limit + 1, around, number, index, (first, second) =>
      if around.contains (.pair number index) then "(...)"
      else
        let inside := .pair number index :: around
        enclosed "(" [graph.literalInside limit inside first,
          graph.literalInside limit inside second] ")"

end

def display (graph : Graph) (number : Nat) : String :=
  match graph.thing number with
  | .scalar s => s.display
  | _ => graph.literalInside graph.depthLimit [] number

mutual

def showableInside (graph : Graph) : (limit : Nat) → List Spot → Nat → Bool
  | 0, _, _ => true
  | limit + 1, around, number =>
      let inside := .thing number :: around
      match graph.thing number with
      | .scalar s => s.isShowable
      | .set elements => elements.all Scalar.isShowable
      | .list items =>
          around.contains (.thing number) ||
            items.all fun item => graph.showableInside limit inside item
      | .pairs items =>
          around.contains (.thing number) ||
            (items.mapIdx fun index pair =>
              graph.pairShowable limit inside number index pair).all id
      | .map entries =>
          around.contains (.thing number) ||
            entries.all fun (key, value) =>
              key.isShowable && graph.showableInside limit inside value

def pairShowable (graph : Graph) : (limit : Nat) → List Spot → (number index : Nat) → Nat × Nat →
    Bool
  | 0, _, _, _, _ => true
  | limit + 1, around, number, index, (first, second) =>
      around.contains (.pair number index) ||
        let inside := .pair number index :: around
        graph.showableInside limit inside first && graph.showableInside limit inside second

end

def isShowable (graph : Graph) (number : Nat) : Bool :=
  graph.showableInside graph.depthLimit [] number

def pairValue (graph : Graph) (number index : Nat) (pair : Nat × Nat) : Value :=
  .scalar (.sealed (graph.pairLiteral graph.depthLimit [] number index pair) false)

-- A thing as a value. One that holds itself, other than in a pair, would not end.
def valueWithin (graph : Graph) : (limit : Nat) → Nat → Except Fault Value
  | 0, _ => .error .tooDeep
  | limit + 1, number =>
      match graph.thing number with
      | .scalar s => .ok (.scalar s)
      | .set elements => .ok (.scalar (.sealed (setLiteral elements) elements.isEmpty))
      | .list items => do return .list (← items.mapM fun item => graph.valueWithin limit item)
      | .pairs items =>
          .ok (.list (items.mapIdx fun index pair => graph.pairValue number index pair))
      | .map entries => do
          return .map (← entries.mapM fun entry => do
            return (entry.1, ← graph.valueWithin limit entry.2))

def value (graph : Graph) (number : Nat) : Except Fault Value :=
  graph.valueWithin graph.depthLimit number

def rootEntries? (graph : Graph) : Option (List (Scalar × Nat)) :=
  match graph.thing graph.root with
  | .map entries => some entries
  | _ => none

def field? (entries : List (Scalar × Nat)) (name : String) : Option Nat :=
  (entries.find? fun entry => entry.1.sameKey (.str name)).map Prod.snd

def typeName (graph : Graph) (number : Nat) : String :=
  match graph.thing number with
  | .scalar .null => "NoneType"
  | .scalar (.bool _) => "bool"
  | .scalar (.int _) => "int"
  | .scalar (.float _) => "float"
  | .scalar (.str _) => "str"
  | .scalar (.moment (.day _)) => "date"
  | .scalar (.moment (.clock _)) => "time"
  | .scalar (.moment (.both _ _ _)) => "datetime"
  | .scalar (.sealed _ _) => "bytes"
  | .list _ => "list"
  | .pairs _ => "list"
  | .map _ => "dict"
  | .set _ => "set"

end Graph

end PipelineLint.Yaml
