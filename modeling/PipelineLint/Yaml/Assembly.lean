import PipelineLint.Text.Lines
import PipelineLint.Yaml.Graph
import PipelineLint.Yaml.Layout
import PipelineLint.Yaml.Node

set_option autoImplicit false

namespace PipelineLint.Yaml

def Node.kind : Node → Kind
  | .scalar kind _ => kind
  | .list kind _ => kind
  | .mapping kind _ => kind

def Node.asText : Node → Node
  | .scalar _ text => .scalar .text text
  | .list _ items => .list .text items
  | .mapping _ members => .mapping .text members

namespace Kind

def merges (kind : Kind) : Bool :=
  kind = .merge

def container? : Kind → Option Thing
  | .list => some (.list [])
  | .pairs => some (.pairs [])
  | .mapping => some (.map [])
  | .set => some (.set [])
  | _ => none

def isVoid : Kind → Bool
  | .merge | .default | .unknown => true
  | _ => false

end Kind

namespace Nodes

def kind (nodes : Nodes) (number : Nat) : Kind :=
  (nodes[number]?).elim .unknown Node.kind

def members (nodes : Nodes) (number : Nat) : List (Nat × Nat) :=
  match nodes[number]? with
  | some (.mapping _ members) => members
  | _ => []

def setMembers (nodes : Nodes) (number : Nat) (members : List (Nat × Nat)) : Nodes :=
  nodes.setIfInBounds number (.mapping (nodes.kind number) members)

-- The text that a node stands for. For a mapping it is the text under an equals sign.
def textWithin (nodes : Nodes) : (limit : Nat) → Nat → Except Fault String
  | 0, _ => .error .tooDeep
  | limit + 1, number =>
      match nodes[number]? with
      | some (.scalar _ text) => .ok text
      | some (.mapping _ members) =>
          match members.find? fun member => nodes.kind member.1 = .default with
          | some (_, value) => nodes.textWithin limit value
          | none => .error .malformed
      | _ => .error .malformed

-- No text is found further away than all nodes.
def text (nodes : Nodes) (number : Nat) : Except Fault String :=
  nodes.textWithin (nodes.size + 1) number

def settleKeys (nodes : Nodes) (number : Nat) : Nodes :=
  (nodes.members number).foldl (fun nodes member =>
    if nodes.kind member.1 = .default then nodes.modify member.1 Node.asText else nodes) nodes

def mergeCount (nodes : Nodes) : Nat :=
  nodes.foldl (fun count node =>
    match node with
    | .mapping _ members => count + members.countP fun member => (nodes.kind member.1).merges
    | _ => count) 0

-- A mapping with the members below its merge keys in front of its own, behind those that are merged already. A merge key is
-- gone when its members are sought, so that each takes one from `limit`.
def mergeWithin : (limit : Nat) → Nodes → Nat → (merged : List (Nat × Nat)) → Except Fault Nodes
  | 0, _, _, _ => .error .malformed
  | limit + 1, nodes, number, merged =>
      let members := nodes.members number
      match members.findIdx? fun member => (nodes.kind member.1).merges with
      | none => .ok ((nodes.setMembers number (merged ++ members)).settleKeys number)
      | some index => do
          let below := ((members[index]?).map Prod.snd).getD 0
          let nodes := nodes.setMembers number (members.eraseIdx index)
          match nodes[below]? with
          | some (.mapping _ _) => do
              let nodes ← mergeWithin limit nodes below []
              mergeWithin limit nodes number (merged ++ nodes.members below)
          | some (.list _ items) => do
              let (nodes, parts) ← items.foldlM (fun (nodes, parts) item =>
                match nodes[item]? with
                | some (.mapping _ _) => do
                    let nodes ← mergeWithin limit nodes item []
                    return (nodes, nodes.members item :: parts)
                | _ => .error .malformed) (nodes, [])
              mergeWithin limit nodes number (merged ++ parts.flatten)
          | _ => .error .malformed

def merge (nodes : Nodes) (number : Nat) : Except Fault Nodes :=
  mergeWithin (nodes.mergeCount + 1) nodes number []

end Nodes

structure Assembly where
  nodes : Nodes
  things : Array (Option Thing)
  containers : Array Nat := #[]

namespace Assembly

def put (assembly : Assembly) (number : Nat) (thing : Thing) : Assembly :=
  { assembly with things := assembly.things.setIfInBounds number (some thing) }

def scalar (nodes : Nodes) (number : Nat) : Except Fault Scalar :=
  let kind := nodes.kind number
  if kind.isVoid then .error .malformed
  else
    match nodes.text number, nodes[number]? with
    | .error fault, _ => .error fault
    | .ok text, some (.scalar _ _) => scalarValue kind text
    | .ok text, _ => if kind = .moment then .error .momentOfMembers else scalarValue kind text

-- Makes a thing if it is not made yet; a list or a mapping is left to be filled.
def make (assembly : Assembly) (number : Nat) : Except Fault Assembly :=
  match assembly.things[number]? with
  | some (some _) => .ok assembly
  | _ =>
      match (assembly.nodes.kind number).container? with
      | some thing =>
          .ok { assembly.put number thing with containers := assembly.containers.push number }
      | none =>
          match scalar assembly.nodes number with
          | .ok s => .ok (assembly.put number (.scalar s))
          | .error fault => .error fault

def key (assembly : Assembly) (number : Nat) : Except Fault Scalar :=
  match assembly.things[number]? with
  | some (some (.scalar s)) => .ok s
  | _ => .error .malformed

-- Sets the thing under a key. A key that is there keeps its place and its first form.
def assign : List (Scalar × Nat) → Scalar → Nat → List (Scalar × Nat)
  | [], key, number => [(key, number)]
  | (old, held) :: rest, key, number =>
      if old.sameKey key then (old, number) :: rest else (old, held) :: assign rest key number

def addMember (made : Assembly × List (Scalar × Nat)) (member : Nat × Nat) :
    Except Fault (Assembly × List (Scalar × Nat)) := do
  let assembly ← made.1.make member.1
  let key ← assembly.key member.1
  return (← assembly.make member.2, assign made.2 key member.2)

def entries (assembly : Assembly) (number : Nat) :
    Except Fault (Assembly × List (Scalar × Nat)) := do
  match assembly.nodes[number]? with
  | some (.mapping _ _) =>
      let nodes ← assembly.nodes.merge number
      (nodes.members number).foldlM addMember ({ assembly with nodes }, [])
  | _ => .error .malformed

def items (assembly : Assembly) (number : Nat) : Except Fault (Assembly × List Nat) := do
  match assembly.nodes[number]? with
  | some (.list _ items) => return (← items.foldlM make assembly, items)
  | _ => .error .malformed

def addPair (made : Assembly × List (Nat × Nat)) (number : Nat) :
    Except Fault (Assembly × List (Nat × Nat)) := do
  match made.1.nodes[number]? with
  | some (.mapping _ [member]) =>
      return (← (← made.1.make member.1).make member.2, made.2 ++ [member])
  | _ => .error .malformed

def pairs (assembly : Assembly) (number : Nat) :
    Except Fault (Assembly × List (Nat × Nat)) := do
  match assembly.nodes[number]? with
  | some (.list _ items) => items.foldlM addPair (assembly, [])
  | _ => .error .malformed

def fill (assembly : Assembly) (number : Nat) : Except Fault Assembly := do
  match assembly.nodes.kind number with
  | .list =>
      let (assembly, items) ← assembly.items number
      return assembly.put number (.list items)
  | .pairs =>
      let (assembly, pairs) ← assembly.pairs number
      return assembly.put number (.pairs pairs)
  | .set =>
      let (assembly, entries) ← assembly.entries number
      return assembly.put number (.set (entries.map Prod.fst))
  | _ =>
      let (assembly, entries) ← assembly.entries number
      return assembly.put number (.map entries)

def fillFrom : (limit place : Nat) → Assembly → Except Fault Assembly
  | 0, _, assembly => .ok assembly
  | limit + 1, place, assembly =>
      match assembly.containers[place]? with
      | none => .ok assembly
      | some number => do fillFrom limit (place + 1) (← assembly.fill number)

end Assembly

def Graph.ofNodes (nodes : Nodes) (root : Nat) : Except Fault Graph := do
  let start : Assembly := { nodes, things := Array.replicate nodes.size none }
  let assembly ← Assembly.fillFrom (nodes.size + 1) 0 (← start.make root)
  return { things := assembly.things.map fun thing => thing.getD (.scalar .null), root }

abbrev Reader := List Char → Except Fault Graph

def read (text : List Char) : Except Fault Graph := do
  let (nodes, root) ← Nodes.ofTokens (tokens (Text.unifyBreaks text))
  Graph.ofNodes nodes root

end PipelineLint.Yaml
