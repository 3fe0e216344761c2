import PipelineLint.Document.Line

set_option autoImplicit false

namespace PipelineLint.Document

inductive Chomp where
  | clip
  | strip
  | keep
deriving DecidableEq

structure BlockHeader where
  folded : Bool
  chomp : Chomp
  depth : Option Nat
deriving DecidableEq

def indicator? (c : Char) : Option (Chomp ⊕ Nat) :=
  if c = '+' then some (.inl .keep)
  else if c = '-' then some (.inl .strip)
  else if '1' ≤ c && c ≤ '9' then some (.inr (c.toNat - 48))
  else none

def BlockHeader.ofIndicators (folded : Bool) (indicators : List (Chomp ⊕ Nat)) : BlockHeader :=
  { folded
    chomp := (indicators.findSome? Sum.getLeft?).getD .clip
    depth := indicators.findSome? Sum.getRight? }

def blockHeader? : List Char → Option BlockHeader
  | [] => none
  | style :: rest =>
      if style = '|' || style = '>' then
        if rest.length ≤ 2 then
          (rest.mapM indicator?).map (BlockHeader.ofIndicators (style = '>'))
        else none
      else none

-- The lines of a block scalar and the lines after it. Without a known depth the first line that is not blank sets it, if it
-- stands deeper than the parent.
def takeBody (parent : Nat) : (depth : Option Nat) → List Line → List (List Char) × List Line
  | _, [] => ([], [])
  | depth, line :: rest =>
      if line.isBlank then
        let (body, after) := takeBody parent depth rest
        ([] :: body, after)
      else
        match depth with
        | none =>
            if line.indent ≤ parent then ([], line :: rest)
            else
              let (body, after) := takeBody parent (some line.indent) rest
              (line.dropColumns line.indent :: body, after)
        | some column =>
            if line.indent < column then ([], line :: rest)
            else
              let (body, after) := takeBody parent (some column) rest
              (line.dropColumns column :: body, after)

def startsSpaced (line : List Char) : Bool :=
  line.head? = some ' '

-- The lines after the first folded into one text: a break between two lines of text becomes a space, and a run of empty lines
-- as many breaks.
def foldAfter : (before : List Char) → List (List Char) → List Char
  | _, [] => []
  | before, line :: rest =>
      let joined :=
        if line = [] then ['\n']
        else if before = [] then line
        else if startsSpaced line || startsSpaced before then '\n' :: line
        else ' ' :: line
      joined ++ foldAfter line rest

def foldLines : List (List Char) → List Char
  | [] => []
  | line :: rest => line ++ foldAfter line rest

def blockText (header : BlockHeader) (lines : List (List Char)) : List Char :=
  let body := (lines.reverse.dropWhile (· = [])).reverse
  let trailing := lines.length - body.length
  let text := if header.folded then foldLines body else Text.joinFeeds body
  if body = [] then
    match header.chomp with
    | .keep => List.replicate trailing '\n'
    | _ => []
  else
    match header.chomp with
    | .strip => text
    | .keep => text ++ List.replicate (trailing + 1) '\n'
    | .clip => text ++ ['\n']

-- A text with further lines added while it is unbalanced.
def gather (piece : Line → List Char) : List Char → List Line → List Char × List Line
  | text, [] => (text, [])
  | text, line :: rest =>
      if isUnbalanced text then gather piece (text ++ ' ' :: piece line) rest
      else (text, line :: rest)

def takeContinuation (parent : Nat) : List Line → List (List Char) × List Line
  | [] => ([], [])
  | line :: rest =>
      if !line.isSignificant then takeContinuation parent rest
      else if line.indent ≤ parent || isItemText line.content || (entryHead? line.content).isSome then
        ([], line :: rest)
      else
        let (parts, after) := takeContinuation parent rest
        (stripComment line.content :: parts, after)

theorem takeBody_suffix (parent : Nat) (depth : Option Nat) (lines : List Line) :
    (takeBody parent depth lines).2 <:+ lines := by
  induction lines generalizing depth with
  | nil => exact List.suffix_refl []
  | cons line rest ih =>
      simp only [takeBody]
      split
      · exact (ih depth).trans (List.suffix_cons line rest)
      · split
        · split
          · exact List.suffix_refl _
          · exact (ih _).trans (List.suffix_cons line rest)
        · split
          · exact List.suffix_refl _
          · exact (ih _).trans (List.suffix_cons line rest)

theorem gather_suffix (piece : Line → List Char) (text : List Char) (lines : List Line) :
    (gather piece text lines).2 <:+ lines := by
  induction lines generalizing text with
  | nil => exact List.suffix_refl []
  | cons line rest ih =>
      simp only [gather]
      split
      · exact (ih _).trans (List.suffix_cons line rest)
      · exact List.suffix_refl _

theorem takeContinuation_suffix (parent : Nat) (lines : List Line) :
    (takeContinuation parent lines).2 <:+ lines := by
  induction lines with
  | nil => exact List.suffix_refl []
  | cons line rest ih =>
      simp only [takeContinuation]
      split
      · exact ih.trans (List.suffix_cons line rest)
      · split
        · exact List.suffix_refl _
        · exact ih.trans (List.suffix_cons line rest)

end PipelineLint.Document
