import PipelineLint.Document.Line
import PipelineLint.Text.Lines
import PipelineLint.Validation.Expressions
/-!
Where the names of a document stand in its lines: the plain keys, each with the levels above it, and
the stretches of lines that hold expressions. The lines are looked at one by one and never read as
values, so a document that cannot be read has sites too.
-/

set_option autoImplicit false

namespace PipelineLint.Repair

abbrev Lines := List (List Char)

inductive Level where
  | item
  | key (name : String)
deriving DecidableEq

-- A plain key. The levels above it go from the inside out, and lines are counted from zero.
structure KeySite where
  line : Nat
  column : Nat
  key : String
  above : List Level
deriving DecidableEq

def KeySite.stop (site : KeySite) : Nat :=
  site.column + site.key.length

structure Stretch where
  line : Nat
  start : Nat
  stop : Nat
deriving DecidableEq

def Stretch.text (stretch : Stretch) (line : List Char) : List Char :=
  (line.take stretch.stop).drop stretch.start

structure Sites where
  keys : List KeySite := []
  stretches : List Stretch := []

def Sites.append (first second : Sites) : Sites :=
  ⟨first.keys ++ second.keys, first.stretches ++ second.stretches⟩

structure OpenBlock where
  column : Nat
  isExpression : Bool

-- What is known between two lines: the open levels with their columns, the innermost first.
structure Place where
  levels : List (Nat × Level) := []
  block : Option OpenBlock := none

def indentOf (line : List Char) : Nat :=
  (line.takeWhile (· = ' ')).length

def inkEnd (line : List Char) : Nat :=
  (Text.trimRight line).length

def dashWidth? : List Char → Option Nat
  | ['-'] => some 1
  | '-' :: ' ' :: rest => some (2 + (rest.takeWhile (· = ' ')).length)
  | _ => none

def isGap (c : Char) : Bool :=
  c = ' ' || c = '\t'

def isKeyCharacter (c : Char) : Bool :=
  Text.isWord c || c = '-'

-- A plain key at the start of a text, and the value behind its colon. The colon ends the text or has a gap behind it.
def plainEntry? (text : List Char) : Option (List Char × List Char) :=
  match text with
  | [] => none
  | c :: rest =>
      if Text.isNameStart c then
        match (rest.dropWhile isKeyCharacter).dropWhile isGap with
        | ':' :: value =>
            if value.head?.all isGap then
              some (c :: rest.takeWhile isKeyCharacter, value.dropWhile isGap)
            else none
        | _ => none
      else none

def opensBlock : List Char → Bool
  | [] => false
  | style :: rest =>
      (style = '|' || style = '>') &&
        ((rest.dropWhile fun c => c = '-' || c = '+' || c.isDigit).dropWhile Text.isBlank).head?.all
          (· = '#')

def isExpressionKey (key : String) (above : List Level) : Bool :=
  Validation.expressionKeys.contains key ||
    (key = Validation.queryKey &&
      match above with
      | .key owner :: _ => Validation.queryParents.contains owner
      | _ => false)

def interpolated (index : Nat) (line : List Char) (column : Nat) : List Stretch :=
  (Expression.interpolations (line.drop column)).map fun span =>
    ⟨index, column + span.start, column + span.stop⟩

def scalarStretch (index : Nat) (line : List Char) (start : Nat) : Stretch :=
  let stop := inkEnd line
  let first := line.drop start |>.head?
  let last := line.drop (stop - 1) |>.head?
  if start + 2 ≤ stop && (first = some '\'' || first = some '"') && last = first then
    ⟨index, start + 1, stop - 1⟩
  else ⟨index, start, stop⟩

def valueStretches (index : Nat) (line : List Char) (start : Nat) (isExpression : Bool) :
    List Stretch :=
  if Text.allBlank (line.drop start) then []
  else if isExpression then [scalarStretch index line start]
  else interpolated index line start

def visitEntry (levels : List (Nat × Level)) (index : Nat) (line : List Char) (column : Nat) :
    Place × Sites :=
  let text := line.drop column
  match plainEntry? text with
  | none => (⟨levels, none⟩, { stretches := interpolated index line column })
  | some (key, value) =>
      let name := String.ofList key
      let outer := levels.dropWhile fun level => decide (column ≤ level.1)
      let above := outer.map Prod.snd
      let isExpression := isExpressionKey name above
      let start := column + (text.length - value.length)
      let levels := (column, .key name) :: outer
      let site : KeySite := ⟨index, column, name, above⟩
      if opensBlock value then (⟨levels, some ⟨column, isExpression⟩⟩, { keys := [site] })
      else (⟨levels, none⟩, ⟨[site], valueStretches index line start isExpression⟩)

def aboveItem (column : Nat) (levels : List (Nat × Level)) : List (Nat × Level) :=
  levels.dropWhile fun level => decide (column < level.1 ∨ level.1 = column ∧ level.2 = .item)

def visitLine (levels : List (Nat × Level)) (index : Nat) (line : List Char) : Place × Sites :=
  let content := Text.trim line
  let indent := indentOf line
  if content = [] || content.head? = some '#' then (⟨levels, none⟩, {})
  else if indent = 0 && Document.isMarker content then ({}, {})
  else
    match dashWidth? (line.drop indent) with
    | some width =>
        let levels := (indent, .item) :: aboveItem indent levels
        let column := indent + width
        if inkEnd line ≤ column then (⟨levels, none⟩, {})
        else visitEntry levels index line column
    | none => visitEntry levels index line indent

def bodyStretches (block : OpenBlock) (index : Nat) (line : List Char) : List Stretch :=
  if block.isExpression then [⟨index, indentOf line, inkEnd line⟩]
  else interpolated index line (indentOf line)

def visit (place : Place) (index : Nat) (line : List Char) : Place × Sites :=
  match place.block with
  | none => visitLine place.levels index line
  | some block =>
      if Text.allBlank line then (place, {})
      else if block.column < indentOf line then
        (place, { stretches := bodyStretches block index line })
      else visitLine place.levels index line

def sitesFrom (place : Place) (index : Nat) : Lines → Sites
  | [] => {}
  | line :: rest =>
      let (next, here) := visit place index line
      here.append (sitesFrom next (index + 1) rest)

def sites (lines : Lines) : Sites :=
  sitesFrom {} 0 lines

def listCategories : List (String × Category) := [
  ("processors", .processor), ("try", .processor), ("catch", .processor), ("inputs", .input),
  ("outputs", .output), ("processor_resources", .processor), ("input_resources", .input),
  ("output_resources", .output), ("cache_resources", .cache),
  ("rate_limit_resources", .rateLimit)
]

def sectionCategories : List (String × Category) := [("input", .input), ("output", .output)]

def componentCategory? (above : List Level) : Option Category :=
  match above with
  | [.key owner] => sectionCategories.lookup owner
  | .key owner :: .item :: _ => sectionCategories.lookup owner
  | .item :: .key owner :: _ => listCategories.lookup owner
  | _ => none

def Sites.components (sites : Sites) : List (KeySite × Category) :=
  (sites.keys.filter fun site => !Catalog.isMetadata site.key).filterMap fun site =>
    (componentCategory? site.above).map (site, ·)

structure CallPlace where
  line : Nat
  start : Nat
  stop : Nat
  name : String
deriving DecidableEq

def Stretch.calls (stretch : Stretch) (kind : CallKind) (line : List Char) : List CallPlace :=
  ((Expression.calls (stretch.text line)).filter fun site => decide (site.kind = kind)).map
    fun site =>
      ⟨stretch.line, stretch.start + site.start, stretch.start + site.stop, String.ofList site.name⟩

def Sites.calls (sites : Sites) (kind : CallKind) (lines : Lines) : List CallPlace :=
  sites.stretches.flatMap fun stretch => stretch.calls kind ((lines[stretch.line]?).getD [])

end PipelineLint.Repair
