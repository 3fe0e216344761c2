import PipelineLint.Catalog.Builtin
import PipelineLint.Expression.Mask
import PipelineLint.Text.Blank
import PipelineLint.Text.Word

set_option autoImplicit false

namespace PipelineLint.Expression

structure CallSite where
  name : List Char
  kind : CallKind
  start : Nat
deriving DecidableEq

def CallSite.stop (site : CallSite) : Nat :=
  site.start + site.name.length

def calledName? (text : List Char) : Option (List Char) :=
  match text with
  | [] => none
  | c :: _ =>
      if Text.isNameStart c then
        if (Text.trimLeft (text.dropWhile Text.isWord)).head? = some '(' then
          some (text.takeWhile Text.isWord)
        else none
      else none

def methodCalls : (offset : Nat) → List Char → List CallSite
  | _, [] => []
  | offset, c :: rest =>
      let later := methodCalls (offset + 1) rest
      if c = '.' then
        let gap := rest.takeWhile Text.isBlank
        match calledName? (rest.dropWhile Text.isBlank) with
        | some name => ⟨name, .method, offset + 1 + gap.length⟩ :: later
        | none => later
      else later

def keywords : List String := [
  "if", "else", "match", "let", "root", "this", "map", "import", "not"
]

def allowsCall (before : Option Char) : Bool :=
  match before with
  | none => true
  | some c => !(Text.isWord c || c = '.' || c = '$' || c = '@')

-- The calls of functions in a masked text. `before` is the character in front of it, and `ink` the last one in front of it
-- that is not blank.
def functionCalls : (before ink : Option Char) → (offset : Nat) → List Char → List CallSite
  | _, _, _, [] => []
  | before, ink, offset, c :: rest =>
      let later :=
        functionCalls (some c) (if Text.isBlank c then ink else some c) (offset + 1) rest
      if allowsCall before && ink ≠ some '.' then
        match calledName? (c :: rest) with
        | some name =>
            if keywords.contains (String.ofList name) then later
            else ⟨name, .function, offset⟩ :: later
        | none => later
      else later

def calls (text : List Char) : List CallSite :=
  let masked := mask text
  methodCalls 0 masked ++ functionCalls none none 0 masked

def orderedCalls (text : List Char) : List CallSite :=
  (calls text).mergeSort fun a b => a.start ≤ b.start

end PipelineLint.Expression
