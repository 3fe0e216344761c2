import PipelineLint.Text.Digit
import PipelineLint.Text.Quoted
import PipelineLint.Yaml.Cursor

set_option autoImplicit false

namespace PipelineLint.Yaml

def folded (first : Char) (more : List Char) : List Char :=
  if plainBreak first ≠ '\n' then plainBreak first :: more
  else if more.isEmpty then [' ']
  else more

def endsRun (flow : Bool) (c : Char) (rest : List Char) : Bool :=
  isGap c || isBreak c || (flow && ",?[]\x7b\x7d".toList.contains c) ||
    (c = ':' && (atGap rest || (flow && rest.head?.any ",[]\x7b\x7d".toList.contains)))

def run (flow : Bool) : List Char → List Char
  | [] => []
  | c :: rest => if endsRun flow c rest then [] else c :: run flow rest

structure Between where
  text : List Char
  cursor : Cursor
  broken : Bool

-- The breaks that follow a break, with the spaces in front of each, and the place behind them; none if a document ends among
-- them.
def moreBreaks (cursor : Cursor) : Option (List Char) × Cursor :=
  if atSeparator cursor.rest then (none, cursor)
  else
    match _ : cursor.rest.drop cursor.spaces with
    | [] => (some [], cursor.advance cursor.spaces)
    | c :: _ =>
        if isBreak c then
          let (breaks, behind) := moreBreaks (cursor.advance (cursor.spaces + 1))
          (breaks.map (plainBreak c :: ·), behind)
        else (some [], cursor.advance cursor.spaces)
termination_by cursor.rest.length
decreasing_by
  rw [Cursor.rest_advance]
  exact length_drop_succ (by assumption)

def between (cursor : Cursor) : Between :=
  match cursor.rest.drop cursor.spaces with
  | [] => ⟨List.replicate cursor.spaces ' ', cursor.advance cursor.spaces, false⟩
  | c :: _ =>
      if isBreak c then
        let (breaks, behind) := moreBreaks (cursor.advance (cursor.spaces + 1))
        ⟨(breaks.map (folded c)).getD [], behind, true⟩
      else ⟨List.replicate cursor.spaces ' ', cursor.advance cursor.spaces, false⟩

-- A plain scalar, and whether it ended behind a break. Outside of brackets the lines of a scalar are indented by at least
-- `indent`. At most `most` runs are read.
def plainRuns (flow : Bool) (indent : Nat) : (most : Nat) → Cursor → List Char × Cursor × Bool
  | 0, cursor => ([], cursor, false)
  | most + 1, cursor =>
      let text := run flow cursor.rest
      let gap := between (cursor.advance text.length)
      let ends :=
        gap.text.isEmpty || gap.cursor.rest.head? = some '#' ||
          (!flow && gap.cursor.column < indent) ||
          (run flow gap.cursor.rest).isEmpty
      if ends then (text, gap.cursor, gap.broken)
      else
        let (more, behind, broken) := plainRuns flow indent most gap.cursor
        (text ++ gap.text ++ more, behind, broken)

def plainScalar (flow : Bool) (indent : Nat) (cursor : Cursor) : List Char × Cursor × Bool :=
  plainRuns flow indent (cursor.rest.length + 1) cursor

-- The breaks that follow a break inside quotes, with the gaps around them, and the text behind. A document cannot end there.
def quotedBreaks (text : List Char) : Except Fault (List Char × List Char) :=
  if atSeparator text then .error .malformed
  else
    match _ : text.drop (text.takeWhile isGap).length with
    | [] => .ok ([], [])
    | c :: rest =>
        if isBreak c then
          (quotedBreaks (text.drop ((text.takeWhile isGap).length + 1))).map
            fun (breaks, behind) => (plainBreak c :: breaks, behind)
        else .ok ([], c :: rest)
termination_by text.length
decreasing_by
  exact length_drop_succ (by assumption)

def letterEscapes : List (Char × Nat) := [
  ('0', 0), ('a', 7), ('b', 8), ('t', 9), ('\t', 9), ('n', 10), ('v', 11), ('f', 12), ('r', 13),
  ('e', 27), (' ', 32), ('"', 34), ('\\', 92), ('/', 47), ('N', 0x85), ('_', 0xA0), ('L', 0x2028),
  ('P', 0x2029)
]

def codeEscapes : List (Char × Nat) := [('x', 2), ('u', 4), ('U', 8)]

def codeLimit : Nat := 2147483648

def hexChar (digits : List Char) : Except Fault Char :=
  match Text.hexNumber? digits with
  | none => .error .malformed
  | some code =>
      if code < 0x110000 then .ok (Text.charOfCode code)
      else .error (if code < codeLimit then .noSuchCharacter else .codeTooLarge)

def readEscape (text : List Char) : Except Fault (List Char × List Char) :=
  match text with
  | [] => .error .malformed
  | c :: rest =>
      match letterEscapes.lookup c, codeEscapes.lookup c with
      | some code, _ => .ok ([Char.ofNat code], rest)
      | none, some count =>
          if rest.length < count then .error .malformed
          else (hexChar (rest.take count)).map fun char => ([char], rest.drop count)
      | none, none => if isBreak c then quotedBreaks rest else .error .malformed

def readQuotedGap (text : List Char) : Except Fault (List Char × List Char) :=
  let gap := text.takeWhile isGap
  match text.drop gap.length with
  | [] => .error .malformed
  | c :: rest =>
      if isBreak c then
        (quotedBreaks rest).map fun (breaks, behind) => (folded c breaks, behind)
      else .ok (gap, c :: rest)

-- A text up to the quote that closes it, and the text behind that. In double quotes there are escapes, in single ones two
-- quotes stand for one. At most `most` steps are made.
def readQuoted (double : Bool) : (most : Nat) → List Char → Except Fault (List Char × List Char)
  | 0, _ => .error .malformed
  | _ + 1, [] => .error .malformed
  | most + 1, c :: rest =>
      let step : Except Fault (List Char × List Char) :=
        if isGap c || isBreak c then readQuotedGap (c :: rest)
        else if double && c = '\\' then readEscape rest
        else if !double && c = '\'' then .ok ([c], rest.drop 1)
        else .ok ([c], rest)
      let closes := if double then c = '"' else c = '\'' && rest.head? ≠ some '\''
      if closes then .ok ([], rest)
      else
        match step with
        | .error fault => .error fault
        | .ok (chars, behind) =>
            (readQuoted double most behind).map fun (more, final) => (chars ++ more, final)

def quotedScalar (double : Bool) (cursor : Cursor) : Except Fault (List Char × Cursor) :=
  match readQuoted double cursor.rest.length (cursor.rest.drop 1) with
  | .ok (text, behind) => .ok (text, cursor.upTo behind)
  | .error fault => .error fault

inductive Chomping where
  | clip
  | strip
  | keep
deriving DecidableEq

structure BlockHeader where
  chomping : Chomping := .clip
  increment : Option Nat := none

def chomping? : List Char → Option (Chomping × List Char)
  | '+' :: rest => some (.keep, rest)
  | '-' :: rest => some (.strip, rest)
  | _ => none

def increment? : List Char → Except Fault (Option Nat × List Char)
  | c :: rest =>
      if c = '0' then .error .malformed
      else if c.isDigit then .ok (some (c.toNat - 48), rest)
      else .ok (none, c :: rest)
  | [] => .ok (none, [])

def readBlockHeader (text : List Char) : Except Fault (BlockHeader × List Char) :=
  match chomping? text with
  | some (chomping, rest) =>
      (increment? rest).map fun (increment, behind) => ({ chomping, increment }, behind)
  | none =>
      (increment? text).map fun (increment, rest) =>
        match increment, chomping? rest with
        | some _, some (chomping, behind) => ({ chomping, increment }, behind)
        | _, _ => ({ increment }, rest)

def lineEnd (cursor : Cursor) : Except Fault Cursor :=
  let behind := cursor.advance cursor.filler
  if atBreak behind.rest then .ok (behind.advance 1) else .error .malformed

def blockOpening (deepest : Nat) (cursor : Cursor) : List Char × Nat × Cursor :=
  let behind := cursor.advance cursor.spaces
  let deepest := max deepest (if cursor.spaces = 0 then 0 else behind.column)
  match _ : cursor.rest.drop cursor.spaces with
  | [] => ([], deepest, behind)
  | c :: _ =>
      if isBreak c then
        let (breaks, depth, final) := blockOpening deepest (cursor.advance (cursor.spaces + 1))
        (plainBreak c :: breaks, depth, final)
      else ([], deepest, behind)
termination_by cursor.rest.length
decreasing_by
  rw [Cursor.rest_advance]
  exact length_drop_succ (by assumption)

def spacesUpTo (column : Nat) (cursor : Cursor) : Nat :=
  min cursor.spaces (column - cursor.column)

def blockBreaks (indent : Nat) (cursor : Cursor) : List Char × Cursor :=
  match _ : cursor.rest.drop (spacesUpTo indent cursor) with
  | [] => ([], cursor.advance (spacesUpTo indent cursor))
  | c :: _ =>
      if isBreak c then
        let (breaks, behind) :=
          blockBreaks indent (cursor.advance (spacesUpTo indent cursor + 1))
        (plainBreak c :: breaks, behind)
      else ([], cursor.advance (spacesUpTo indent cursor))
termination_by cursor.rest.length
decreasing_by
  rw [Cursor.rest_advance]
  exact length_drop_succ (by assumption)

def joint (folds : Bool) (line : List Char) (last : Char) (breaks next : List Char) : List Char :=
  if folds && last = '\n' && !line.head?.any isGap && !next.head?.any isGap then
    if breaks.isEmpty then [' '] else []
  else [last]

def blockLines (folds : Bool) (indent : Nat) :
    (most : Nat) → Cursor → List Char × List Char × List Char × Cursor
  | 0, cursor => ([], [], [], cursor)
  | most + 1, cursor =>
      let line := cursor.rest.takeWhile fun c => !isBreak c
      let behind := cursor.advance line.length
      match behind.rest with
      | [] => (line, [], [], behind)
      | c :: _ =>
          let last := plainBreak c
          let (breaks, next) := blockBreaks indent (behind.advance 1)
          if next.column = indent && !next.rest.isEmpty then
            let (more, final) := blockLines folds indent most next
            (line ++ joint folds line last breaks next.rest ++ breaks ++ more, final)
          else (line, [last], breaks, next)

def blockScalar (folds : Bool) (indent : Nat) (cursor : Cursor) :
    Except Fault (List Char × Cursor) :=
  match readBlockHeader (cursor.rest.drop 1) with
  | .error fault => .error fault
  | .ok (header, behind) =>
      if !atSpace behind then .error .malformed
      else
        match lineEnd (cursor.upTo behind) with
        | .error fault => .error fault
        | .ok start =>
            let least := max indent 1
            let (opening, column, first) :=
              match header.increment with
              | none =>
                  let (breaks, deepest, place) := blockOpening 0 start
                  (breaks, max least deepest, place)
              | some increment =>
                  let column := least + increment - 1
                  let (breaks, place) := blockBreaks column start
                  (breaks, column, place)
            let (lines, last, tail, final) :=
              if first.column = column && !first.rest.isEmpty then
                let (lines, rest) := blockLines folds column (first.rest.length + 1) first
                (opening ++ lines, rest)
              else ([], [], opening, first)
            let ending :=
              match header.chomping with
              | .clip => last
              | .strip => []
              | .keep => last ++ tail
            .ok (lines ++ ending, final)

end PipelineLint.Yaml
