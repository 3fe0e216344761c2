import PipelineLint.Yaml.Meaning
import PipelineLint.Yaml.Token

set_option autoImplicit false

namespace PipelineLint.Yaml

inductive Node where
  | scalar (kind : Kind) (text : String)
  | list (kind : Kind) (items : List Nat)
  | mapping (kind : Kind) (members : List (Nat × Nat))

abbrev Nodes := Array Node

structure Progress where
  tokens : List Token
  nodes : Nodes := #[]
  handles : List (String × String) := []
  anchors : List (String × Nat) := []
  depth : Nat := 0

abbrev Reading (α : Type) := StateT Progress (Except Fault) α

namespace Reading

def malformed {α : Type} : Reading α :=
  throw .malformed

def peek : Reading Token := do
  match (← get).tokens with
  | .fault fault :: _ => throw fault
  | token :: _ => return token
  | [] => return .textEnd

def drop : Reading Unit :=
  modify fun progress => { progress with tokens := progress.tokens.tail }

def take? (token : Token) : Reading Bool := do
  if (← peek) = token then
    drop
    return true
  else return false

def expect (token : Token) : Reading Unit := do
  if !(← take? token) then malformed

def atAny (tokens : List Token) : Reading Bool := do
  return tokens.contains (← peek)

def add (node : Node) : Reading Nat := do
  let progress ← get
  set { progress with nodes := progress.nodes.push node }
  return progress.nodes.size

def replace (number : Nat) (node : Node) : Reading Unit :=
  modify fun progress => { progress with nodes := progress.nodes.setIfInBounds number node }

def addNothing : Reading Nat :=
  add (.scalar .null "")

end Reading

open Reading

structure Properties where
  anchor : Option String := none
  tag : Option String := none

def fullTag (handle : Option String) (suffix : String) : Reading String := do
  match handle with
  | none => return suffix
  | some handle =>
      match (← get).handles.lookup handle with
      | some start => return start ++ suffix
      | none => malformed

def anchor? : Reading (Option String) := do
  match ← peek with
  | .anchor name => do
      drop
      return some name
  | _ => return none

def tag? : Reading (Option String) := do
  match ← peek with
  | .tag handle suffix => do
      drop
      return some (← fullTag handle suffix)
  | _ => return none

def properties : Reading Properties := do
  match ← anchor? with
  | some name => return { anchor := some name, tag := ← tag? }
  | none =>
      let tag ← tag?
      if tag.isSome then return { anchor := ← anchor?, tag } else return {}

namespace Properties

def isOpen (properties : Properties) : Bool :=
  properties.tag.all (· == "!")

def kindOr (properties : Properties) (untagged : Kind) : Kind :=
  if properties.isOpen then untagged else properties.tag.elim untagged Kind.ofTag

def scalarKind (properties : Properties) (text : String) (plain : Bool) : Kind :=
  if plain || properties.tag.isSome then properties.kindOr (Kind.ofPlain text.toList) else .text

end Properties

def nameNode (properties : Properties) (number : Nat) : Reading Unit := do
  match properties.anchor with
  | none => return
  | some name => do
      let progress ← get
      if (progress.anchors.lookup name).isSome then malformed
      else set { progress with anchors := (name, number) :: progress.anchors }

def addScalar (properties : Properties) (kind : Kind) (text : String) : Reading Nat := do
  let number ← add (.scalar kind text)
  nameNode properties number
  return number

def mostNested : Nat := 485

def inside {α : Type} (parts : Reading α) : Reading α := do
  if mostNested ≤ (← get).depth then throw .tooDeep
  modify fun progress => { progress with depth := progress.depth + 1 }
  let parts ← parts
  modify fun progress => { progress with depth := progress.depth - 1 }
  return parts

def addList (properties : Properties) (items : Reading (List Nat)) : Reading Nat := do
  let kind := properties.kindOr .list
  let number ← add (.list kind [])
  nameNode properties number
  replace number (.list kind (← inside items))
  return number

def addMapping (properties : Properties) (members : Reading (List (Nat × Nat))) :
    Reading Nat := do
  let kind := properties.kindOr .mapping
  let number ← add (.mapping kind [])
  nameNode properties number
  replace number (.mapping kind (← inside members))
  return number

mutual

-- A node. Blocks may start here only outside of brackets, and a list that is no deeper than the key in front of it only
-- behind one. Each call takes one from `limit`, and so does each call below it.
def readNode (limit : Nat) (blocks flatList : Bool) : Reading Nat := do
  match limit with
  | 0 => malformed
  | limit + 1 =>
      match ← peek with
      | .alias name => do
          drop
          match (← get).anchors.lookup name with
          | some number => return number
          | none => malformed
      | _ => do
          let properties ← properties
          readContent limit blocks flatList properties

def readContent (limit : Nat) (blocks flatList : Bool) (properties : Properties) :
    Reading Nat := do
  match limit with
  | 0 => malformed
  | limit + 1 =>
      let token ← peek
      if token = .dash && flatList then addList properties (readFlatItems limit)
      else
        match token with
        | .scalar text plain => do
            drop
            addScalar properties (properties.scalarKind text plain) text
        | .openBracket => do
            drop
            addList properties (readBracketItems limit true)
        | .openBrace => do
            drop
            addMapping properties (readBraceMembers limit true)
        | _ =>
            if blocks && token = .itemsStart then do
              drop
              addList properties (readBlockItems limit)
            else if blocks && token = .membersStart then do
              drop
              addMapping properties (readBlockMembers limit)
            else if properties.anchor.isSome || properties.tag.isSome then
              addScalar properties (properties.kindOr .null) ""
            else malformed

def readOptional (limit : Nat) (blocks flatList : Bool) (ends : List Token) : Reading Nat := do
  match limit with
  | 0 => malformed
  | limit + 1 => if ← atAny ends then addNothing else readNode limit blocks flatList

def readBlockItems (limit : Nat) : Reading (List Nat) := do
  match limit with
  | 0 => malformed
  | limit + 1 =>
      if ← take? .dash then
        let item ← readOptional limit true false [.dash, .blockEnd]
        return item :: (← readBlockItems limit)
      else
        expect .blockEnd
        return []

def readFlatItems (limit : Nat) : Reading (List Nat) := do
  match limit with
  | 0 => malformed
  | limit + 1 =>
      if ← take? .dash then
        let item ← readOptional limit true false [.dash, .key, .colon, .blockEnd]
        return item :: (← readFlatItems limit)
      else return []

def readBlockMembers (limit : Nat) : Reading (List (Nat × Nat)) := do
  match limit with
  | 0 => malformed
  | limit + 1 =>
      if ← atAny [.blockEnd] then
        drop
        return []
      else
        expect .key
        let key ← readOptional limit true true [.key, .colon, .blockEnd]
        let value ← readBehindColon limit true [.key, .colon, .blockEnd]
        return (key, value) :: (← readBlockMembers limit)

def readBehindColon (limit : Nat) (blocks : Bool) (ends : List Token) : Reading Nat := do
  match limit with
  | 0 => malformed
  | limit + 1 =>
      if ← take? .colon then readOptional limit blocks blocks ends else addNothing

-- The items of a list in brackets. One that is a key is a mapping by itself.
def readBracketItems (limit : Nat) (first : Bool) : Reading (List Nat) := do
  match limit with
  | 0 => malformed
  | limit + 1 =>
      if ← take? .closeBracket then return []
      else
        if !first then expect .comma
        if ← take? .closeBracket then return []
        else if ← take? .key then
          let item ← addMapping {} do
            let key ← readOptional limit false false [.colon, .comma, .closeBracket]
            return [(key, ← readBehindColon limit false [.comma, .closeBracket])]
          return item :: (← readBracketItems limit false)
        else
          let item ← readNode limit false false
          return item :: (← readBracketItems limit false)

def readBraceMembers (limit : Nat) (first : Bool) : Reading (List (Nat × Nat)) := do
  match limit with
  | 0 => malformed
  | limit + 1 =>
      if ← take? .closeBrace then return []
      else
        if !first then expect .comma
        if ← take? .closeBrace then return []
        else if ← take? .key then
          let key ← readOptional limit false false [.colon, .comma, .closeBrace]
          let value ← readBehindColon limit false [.comma, .closeBrace]
          return (key, value) :: (← readBraceMembers limit false)
        else
          let key ← readNode limit false false
          let value ← addNothing
          return (key, value) :: (← readBraceMembers limit false)

end

def commonHandles : List (String × String) := [("!", "!"), ("!!", "tag:yaml.org,2002:")]

def readDirectives : (most : Nat) → (versioned : Bool) → List (String × String) →
    Reading (List (String × String))
  | 0, _, _ => malformed
  | most + 1, versioned, handles => do
      match ← peek with
      | .versionDirective major =>
          if versioned || major ≠ 1 then malformed
          else
            drop
            readDirectives most true handles
      | .tagDirective handle start =>
          if (handles.lookup handle).isSome then malformed
          else
            drop
            readDirectives most versioned ((handle, start) :: handles)
      | .otherDirective => do
          drop
          readDirectives most versioned handles
      | _ => return handles

def atDocumentHead : Reading Bool := do
  match ← peek with
  | .versionDirective _ | .tagDirective _ _ | .otherDirective | .documentStart => return true
  | _ => return false

def readMarkedDocument (limit : Nat) : Reading Nat := do
  let handles ← readDirectives limit false []
  modify fun progress => { progress with handles := handles ++ commonHandles }
  expect .documentStart
  if (← atDocumentHead) || (← atAny [.documentEnd, .textEnd]) then addNothing
  else readNode limit true false

def dropEnds : (most : Nat) → Reading Unit
  | 0 => pure ()
  | most + 1 => do if ← take? .documentEnd then dropEnds most

def readDocument (limit : Nat) : Reading Nat := do
  if ← atAny [.textEnd] then addNothing
  else
    let node ← if ← atDocumentHead then readMarkedDocument limit else readNode limit true false
    dropEnds limit
    expect .textEnd
    return node

-- The nodes in some tokens and the number of the one that holds the others. At most four calls are nested for each token.
def Nodes.ofTokens (tokens : List Token) : Except Fault (Nodes × Nat) :=
  ((readDocument (4 * tokens.length + 8)).run { tokens, handles := commonHandles }).map
    fun (root, progress) => (progress.nodes, root)

end PipelineLint.Yaml
