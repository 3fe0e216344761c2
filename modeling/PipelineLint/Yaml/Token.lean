import PipelineLint.Text.Digit
import PipelineLint.Text.Utf8
import PipelineLint.Yaml.Cursor

set_option autoImplicit false

namespace PipelineLint.Yaml

def endsName : List Char → Bool
  | [] => true
  | c :: _ => isGap c || isBreak c || "?:,]\x7d%@".toList.contains c || c.toNat = 96

inductive Token where
  | versionDirective (major : Nat)
  | tagDirective (handle start : String)
  | otherDirective
  | documentStart
  | documentEnd
  | textEnd
  | itemsStart
  | membersStart
  | blockEnd
  | openBracket
  | closeBracket
  | openBrace
  | closeBrace
  | comma
  | dash
  | key
  | colon
  | alias (name : String)
  | anchor (name : String)
  | tag (handle : Option String) (suffix : String)
  | scalar (text : String) (plain : Bool)
  | fault (fault : Fault)
deriving DecidableEq

abbrev Front (α : Type) := α × List Char

def isNameCharacter (c : Char) : Bool :=
  c.isAlphanum || c = '-' || c = '_'

def readName (text : List Char) : Except Fault (Front String) :=
  match text.takeWhile isNameCharacter with
  | [] => .error .malformed
  | name => .ok (String.ofList name, text.drop name.length)

def readAnchor (text : List Char) : Except Fault (Front String) :=
  match readName text with
  | .ok (name, rest) => if endsName rest then .ok (name, rest) else .error .malformed
  | .error fault => .error fault

def isTagCharacter (c : Char) : Bool :=
  c.isAlphanum || "-;/?:@&=+$,_.!~*'()[]".toList.contains c

def tagBytes : List Char → Except Fault (Front Text.Utf8.Bytes)
  | '%' :: high :: low :: rest =>
      match Text.hexNumber? [high, low] with
      | some byte =>
          (tagBytes rest).map fun (bytes, behind) => (UInt8.ofNat byte :: bytes, behind)
      | none => .error .malformed
  | '%' :: _ => .error .malformed
  | c :: rest =>
      if isTagCharacter c then
        (tagBytes rest).map fun (bytes, behind) => (UInt8.ofNat c.toNat :: bytes, behind)
      else .ok ([], c :: rest)
  | [] => .ok ([], [])

def readTagText (text : List Char) : Except Fault (Front String) :=
  match tagBytes text with
  | .error fault => .error fault
  | .ok ([], _) => .error .malformed
  | .ok (bytes, behind) =>
      match Text.Utf8.decode bytes with
      | .ok name => .ok (String.ofList name, behind)
      | .error _ => .error .malformed

def readHandle (text : List Char) : Except Fault (Front String) :=
  let name := text.takeWhile isNameCharacter
  match text.drop name.length with
  | '!' :: behind => .ok (String.ofList ('!' :: name ++ ['!']), behind)
  | _ => .error .malformed

def readTagParts (text : List Char) : Except Fault (Front Token) :=
  match text with
  | '<' :: inside => do
      let (name, behind) ← readTagText inside
      match behind with
      | '>' :: rest => return (.tag none name, rest)
      | _ => .error .malformed
  | _ =>
      if atGap text then .ok (.tag none "!", text)
      else if (text.takeWhile fun c => c ≠ ' ' && !isBreak c).contains '!' then do
        let (handle, rest) ← readHandle text
        let (name, behind) ← readTagText rest
        return (.tag (some handle) name, behind)
      else do
        let (name, behind) ← readTagText text
        return (.tag (some "!") name, behind)

def readTag (text : List Char) : Except Fault (Front Token) :=
  match readTagParts text with
  | .ok (token, behind) => if atSpace behind then .ok (token, behind) else .error .malformed
  | .error fault => .error fault

def dropSpaces (text : List Char) : List Char :=
  text.dropWhile (· = ' ')

def readVersionNumber (text : List Char) : Except Fault (Front Nat) :=
  match text.takeWhile Char.isDigit with
  | [] => .error .malformed
  | digits =>
      .ok (digits.foldl (fun n c => n * 10 + (c.toNat - 48)) 0, text.drop digits.length)

def readVersion (text : List Char) : Except Fault (Front Token) := do
  let (major, rest) ← readVersionNumber (dropSpaces text)
  match rest with
  | '.' :: minor =>
      let (_, behind) ← readVersionNumber minor
      return (.versionDirective major, behind)
  | _ => .error .malformed

def readDirectiveHandle (text : List Char) : Except Fault (Front String) :=
  match text with
  | '!' :: ' ' :: rest => .ok ("!", ' ' :: rest)
  | '!' :: rest => readHandle rest
  | _ => .error .malformed

def readTagDirective (text : List Char) : Except Fault (Front Token) := do
  let (handle, rest) ← readDirectiveHandle (dropSpaces text)
  if rest.head? ≠ some ' ' then .error .malformed
  else
    let (start, behind) ← readTagText (dropSpaces rest)
    return (.tagDirective handle start, behind)

def readDirective (text : List Char) : Except Fault (Front Token) := do
  let (name, rest) ← readName text
  if !atSpace rest then .error .malformed
  else
    match name with
    | "YAML" => do
        let (token, behind) ← readVersion rest
        if atSpace behind then return (token, behind) else .error .malformed
    | "TAG" => do
        let (token, behind) ← readTagDirective rest
        if atSpace behind then return (token, behind) else .error .malformed
    | _ => return (.otherDirective, rest.dropWhile fun c => !isBreak c)

end PipelineLint.Yaml
