import PipelineLint.Yaml.Scalar
import PipelineLint.Yaml.Token
/-!
The tokens of a text. Outside of brackets the indentation of lines says where lists and mappings start
and end. A key is known as one only when its colon comes, and so the places of tokens that may turn
out to be keys are kept, one for each depth of brackets, as long as a colon can still come.
-/

set_option autoImplicit false

namespace PipelineLint.Yaml

structure KeyPlace where
  position : Nat
  required : Bool
  index : Nat
  line : Nat
  column : Nat

structure Layout where
  cursor : Cursor
  tokens : Array Token := #[]
  depth : Nat := 0
  -- One more than the column of the innermost block; zero if there is none.
  indent : Nat := 0
  outer : List Nat := []
  keysAllowed : Bool := true
  keys : List (Nat × KeyPlace) := []

namespace Layout

abbrev Step := Except Fault Layout

def push (layout : Layout) (token : Token) : Layout :=
  { layout with tokens := layout.tokens.push token }

def advance (layout : Layout) (count : Nat) : Layout :=
  { layout with cursor := layout.cursor.advance count }

def inBrackets (layout : Layout) : Bool :=
  layout.depth ≠ 0

def keyReach : Nat := 1024

def isStale (cursor : Cursor) (place : KeyPlace) : Bool :=
  place.line ≠ cursor.line || keyReach < cursor.index - place.index

def dropStale (layout : Layout) : Step :=
  let (stale, live) := layout.keys.partition fun entry => isStale layout.cursor entry.2
  if stale.any fun entry => entry.2.required then .error .malformed
  else .ok { layout with keys := live }

def dropKey (layout : Layout) : Step :=
  match layout.keys.lookup layout.depth with
  | none => .ok layout
  | some place =>
      if place.required then .error .malformed
      else .ok { layout with keys := layout.keys.filter fun entry => entry.1 ≠ layout.depth }

def keepKey (layout : Layout) : Step := do
  if !layout.keysAllowed then return layout
  let layout ← layout.dropKey
  let cursor := layout.cursor
  let place : KeyPlace := {
    position := layout.tokens.size
    required := !layout.inBrackets && layout.indent = cursor.column + 1
    index := cursor.index
    line := cursor.line
    column := cursor.column }
  return { layout with keys := (layout.depth, place) :: layout.keys }

def unwind (indent : Nat) (layout : Layout) : Layout :=
  if layout.inBrackets then layout else go layout.outer layout
where
  go (outer : List Nat) (layout : Layout) : Layout :=
    if layout.indent ≤ indent then layout
    else
      match outer with
      | [] => layout
      | next :: rest =>
          go rest { layout with indent := next, outer := rest, tokens := layout.tokens.push .blockEnd }

def open? (layout : Layout) (column : Nat) : Option Layout :=
  if layout.indent < column + 1 then
    some { layout with indent := column + 1, outer := layout.indent :: layout.outer }
  else none

-- Goes to the next token, over spaces, comments and breaks. Behind a break outside of brackets a key may start. At most
-- `most` lines are passed.
def toToken : (most : Nat) → Layout → Layout
  | 0, layout => layout
  | most + 1, layout =>
      let layout := layout.advance layout.cursor.filler
      match layout.cursor.rest with
      | [] => layout
      | c :: _ =>
          if isBreak c then
            toToken most
              { layout.advance 1 with keysAllowed := layout.keysAllowed || !layout.inBrackets }
          else layout

def markDocument (layout : Layout) : Step := do
  let layout ← (layout.unwind 0).dropKey
  return { layout with keysAllowed := false }

def separator (layout : Layout) (token : Token) : Step := do
  let layout ← layout.markDocument
  return (layout.advance 3).push token

def directive (layout : Layout) : Step := do
  let layout ← layout.markDocument
  let (token, behind) ← readDirective (layout.cursor.rest.drop 1)
  let final ← lineEnd (layout.cursor.upTo behind)
  return { layout with cursor := final }.push token

def openBracket (layout : Layout) (token : Token) : Step := do
  let layout ← layout.keepKey
  return ({ layout with depth := layout.depth + 1, keysAllowed := true }.advance 1).push token

def closeBracket (layout : Layout) (token : Token) : Step := do
  if !layout.inBrackets then .error .malformed
  else
    let layout ← layout.dropKey
    return ({ layout with depth := layout.depth - 1, keysAllowed := false }.advance 1).push token

def comma (layout : Layout) : Step := do
  let layout ← { layout with keysAllowed := true }.dropKey
  return (layout.advance 1).push .comma

def openHere (layout : Layout) (start : Token) : Step :=
  if layout.inBrackets then .ok layout
  else if !layout.keysAllowed then .error .malformed
  else
    match layout.open? layout.cursor.column with
    | some opened => .ok (opened.push start)
    | none => .ok layout

def dash (layout : Layout) : Step := do
  let layout ← layout.openHere .itemsStart
  let layout ← { layout with keysAllowed := true }.dropKey
  return (layout.advance 1).push .dash

def questionMark (layout : Layout) : Step := do
  let layout ← layout.openHere .membersStart
  let layout ← { layout with keysAllowed := !layout.inBrackets }.dropKey
  return (layout.advance 1).push .key

def insertAt (layout : Layout) (position : Nat) (token : Token) : Layout :=
  { layout with tokens := layout.tokens.insertIdxIfInBounds position token }

def keyColon (layout : Layout) (place : KeyPlace) : Layout :=
  let layout :=
    { layout with
      keys := layout.keys.filter fun entry => entry.1 ≠ layout.depth
      keysAllowed := false }
  let layout := layout.insertAt place.position .key
  let opened := if layout.inBrackets then none else layout.open? place.column
  match opened with
  | some opened => opened.insertAt place.position .membersStart
  | none => layout

def bareColon (layout : Layout) : Step := do
  let layout ← layout.openHere .membersStart
  { layout with keysAllowed := !layout.inBrackets }.dropKey

def colon (layout : Layout) : Step := do
  let layout ←
    match layout.keys.lookup layout.depth with
    | some place => pure (layout.keyColon place)
    | none => layout.bareColon
  return (layout.advance 1).push .colon

def named (layout : Layout) (read : List Char → Except Fault (Front Token)) : Step := do
  let layout ← layout.keepKey
  let (token, behind) ← read (layout.cursor.rest.drop 1)
  return { layout with
    cursor := layout.cursor.upTo behind
    keysAllowed := false }.push token

def quoted (layout : Layout) (double : Bool) : Step := do
  let layout ← layout.keepKey
  let (text, cursor) ← quotedScalar double layout.cursor
  return { layout with cursor, keysAllowed := false }.push (.scalar (String.ofList text) false)

def block (layout : Layout) (folds : Bool) : Step := do
  let layout ← { layout with keysAllowed := true }.dropKey
  let (text, cursor) ← blockScalar folds layout.indent layout.cursor
  return { layout with cursor }.push (.scalar (String.ofList text) false)

def plain (layout : Layout) : Step := do
  let layout ← layout.keepKey
  let (text, cursor, broken) := plainScalar layout.inBrackets layout.indent layout.cursor
  return { layout with cursor, keysAllowed := broken }.push (.scalar (String.ofList text) true)

def startsPlain (inBrackets : Bool) (c : Char) (rest : List Char) : Bool :=
  !(isGap c || isBreak c || "-?:,[]\x7b\x7d#&*!|>'\"%@".toList.contains c || c.toNat = 96) ||
    (!atGap rest && (c = '-' || (!inBrackets && (c = '?' || c = ':'))))

def readToken (layout : Layout) (c : Char) (rest : List Char) : Step :=
  let atStart := layout.cursor.column = 0
  let inBrackets := layout.inBrackets
  if atStart && c = '%' then layout.directive
  else if atStart && c = '-' && atSeparator (c :: rest) then layout.separator .documentStart
  else if atStart && c = '.' && atSeparator (c :: rest) then layout.separator .documentEnd
  else if c = '[' then layout.openBracket .openBracket
  else if c = '\x7b' then layout.openBracket .openBrace
  else if c = ']' then layout.closeBracket .closeBracket
  else if c = '\x7d' then layout.closeBracket .closeBrace
  else if c = ',' then layout.comma
  else if c = '-' && atGap rest then layout.dash
  else if c = '?' && (inBrackets || atGap rest) then layout.questionMark
  else if c = ':' && (inBrackets || atGap rest) then layout.colon
  else if c = '*' then layout.named fun text => do
    let (name, behind) ← readAnchor text
    return (.alias name, behind)
  else if c = '&' then layout.named fun text => do
    let (name, behind) ← readAnchor text
    return (.anchor name, behind)
  else if c = '!' then layout.named readTag
  else if c = '|' && !inBrackets then layout.block false
  else if c = '>' && !inBrackets then layout.block true
  else if c = '\'' then layout.quoted false
  else if c = '"' then layout.quoted true
  else if startsPlain inBrackets c rest then layout.plain
  else .error .malformed

def toNext (layout : Layout) : Step := do
  let layout ← (toToken (layout.cursor.rest.length + 1) layout).dropStale
  return layout.unwind (layout.cursor.column + 1)

def step (layout : Layout) : Step := do
  let layout ← layout.toNext
  match layout.cursor.rest with
  | [] => return (← layout.markDocument).push .textEnd
  | c :: rest => layout.readToken c rest

def readTokens : (most : Nat) → Layout → List Token
  | 0, layout => (layout.push (.fault .malformed)).tokens.toList
  | most + 1, layout =>
      match layout.step with
      | .error fault => (layout.push (.fault fault)).tokens.toList
      | .ok next =>
          if next.tokens.back? = some .textEnd then next.tokens.toList else readTokens most next

end Layout

def isPrintable (c : Char) : Bool :=
  let code := c.toNat
  code = 9 || code = 10 || code = 13 || (32 ≤ code && code ≤ 126) || code = 0x85 ||
    (0xA0 ≤ code && code ≤ 0xD7FF) || (0xE000 ≤ code && code ≤ 0xFFFD) || 0x10000 ≤ code

def tokens (text : List Char) : List Token :=
  if text.all isPrintable then
    let start : Cursor := { rest := text }
    let start := if text.head? = some byteOrderMark then start.next else start
    Layout.readTokens (text.length + 2) { cursor := start }
  else [.fault .malformed]

end PipelineLint.Yaml
