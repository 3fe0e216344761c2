import PipelineLint.Toml.Number
import PipelineLint.Toml.Table
import PipelineLint.Toml.Text

set_option autoImplicit false

namespace PipelineLint.Toml

def required {α : Type} : Option α → Except Fault α
  | some value => .ok value
  | none => .error .malformed

-- The text behind a comment, if one starts here: the line feed that ends it or the end of all.
def dropComment (text : List Char) : Except Fault (List Char) :=
  match text with
  | '#' :: rest =>
      if (rest.takeWhile (· ≠ '\n')).any (isForbidden false) then .error .malformed
      else .ok (rest.dropWhile (· ≠ '\n'))
  | _ => .ok text

def dropFiller : (most : Nat) → List Char → Except Fault (List Char)
  | 0, text => .ok text
  | most + 1, text =>
      match text.dropWhile isGapOrFeed with
      | '#' :: rest =>
          match dropComment ('#' :: rest) with
          | .ok after => dropFiller most after
          | .error fault => .error fault
      | after => .ok after

def skipFiller (text : List Char) : Except Fault (List Char) :=
  dropFiller (text.length + 1) text

def booleans : List (String × Bool) := [("true", true), ("false", false)]

def takeSimple (text : List Char) : Except Fault (Value × List Char) :=
  match text with
  | '"' :: _ | '\'' :: _ => do
      let (inside, rest) ← required (takeString? text)
      return (.str (String.ofList inside), rest)
  | _ =>
      match takeWord? booleans text with
      | some (b, rest) => .ok (.bool b, rest)
      | none => do
          let (result, rest) ← required (takeNumber? text)
          return (← result, rest)

def takeKeyAndSign (text : List Char) : Except Fault (Path × List Char) := do
  let (key, rest) ← required (takeKey? text)
  match rest with
  | '=' :: after => return (key, after.dropWhile isGap)
  | _ => .error .malformed

mutual

-- A value at the start of a text. `depth` bounds the number of steps.
def takeValue (depth : Nat) (text : List Char) : Except Fault (Value × List Char) :=
  match depth with
  | 0 => .error .malformed
  | depth + 1 =>
      match text with
      | '[' :: rest => do
          let (items, after) ← takeItems depth (← skipFiller rest)
          return (.list items, after)
      | '\x7b' :: rest => do
          match rest.dropWhile isGap with
          | '\x7d' :: after => return (.map [], after)
          | inside =>
              let (table, after) ← takeMembers depth {} inside
              return (.map table, after)
      | _ => takeSimple text

def takeItems (depth : Nat) (text : List Char) : Except Fault (List Value × List Char) :=
  match depth with
  | 0 => .error .malformed
  | depth + 1 =>
      match text with
      | ']' :: rest => .ok ([], rest)
      | _ => do
          let (item, rest) ← takeValue depth text
          match ← skipFiller rest with
          | ']' :: after => return ([item], after)
          | ',' :: after =>
              let (items, final) ← takeItems depth (← skipFiller after)
              return (item :: items, final)
          | _ => .error .malformed

def takeMembers (depth : Nat) (draft : InlineDraft) (text : List Char) : Except Fault (Entries × List Char) :=
  match depth with
  | 0 => .error .malformed
  | depth + 1 => do
      let (key, rest) ← takeKeyAndSign text
      let (value, rest) ← takeValue depth rest
      let draft ← required (draft.put? key value)
      match rest.dropWhile isGap with
      | '\x7d' :: after => return (draft.table, after)
      | ',' :: after => takeMembers depth draft (after.dropWhile isGap)
      | _ => .error .malformed

end

def takeHeader (close text : List Char) : Except Fault (Path × List Char) := do
  let (path, rest) ← required (takeKey? (text.dropWhile isGap))
  if close.isPrefixOf rest then return (path, rest.drop close.length) else .error .malformed

def takeStatement (draft : Draft) (text : List Char) : Except Fault (Draft × List Char) :=
  match text with
  | '[' :: '[' :: rest => do
      let (path, after) ← takeHeader [']', ']'] rest
      return (← required (draft.settle.openItem? path), after)
  | '[' :: rest => do
      let (path, after) ← takeHeader [']'] rest
      return (← required (draft.settle.openTable? path), after)
  | _ => do
      let (key, rest) ← takeKeyAndSign text
      let (value, after) ← takeValue (2 * rest.length + 2) rest
      return (← required (draft.put? key value), after)

def readStatements : (most : Nat) → Draft → List Char → Except Fault Entries
  | 0, _, _ => .error .malformed
  | most + 1, draft, text =>
      match text.dropWhile isGap with
      | [] => .ok draft.table
      | '\n' :: rest => readStatements most draft rest
      | start => do
          let (draft, rest) ← if start.head? = some '#' then .ok (draft, start)
            else takeStatement draft start
          match ← dropComment (rest.dropWhile isGap) with
          | [] => return draft.table
          | '\n' :: after => readStatements most draft after
          | _ => .error .malformed

-- A text with one line feed in place of each return that a line feed follows.
def plainFeeds : List Char → List Char
  | '\r' :: '\n' :: rest => '\n' :: plainFeeds rest
  | c :: rest => c :: plainFeeds rest
  | [] => []

def read (text : List Char) : Except Fault Entries :=
  let plain := plainFeeds text
  readStatements (plain.length + 1) {} plain

end PipelineLint.Toml
