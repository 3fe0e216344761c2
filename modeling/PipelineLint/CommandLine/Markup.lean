import PipelineLint.CommandLine.Argument
import PipelineLint.CommandLine.Style
import PipelineLint.Text.Emoji

set_option autoImplicit false

namespace PipelineLint.Markup

def startsTag (c : Char) : Bool :=
  c.isLower || c = '#' || c = '/' || c = '@'

def frontTag? : List Char → Option (List Char × List Char)
  | '[' :: first :: rest =>
      if startsTag first then
        match rest.dropWhile fun c => c ≠ '[' && c ≠ ']' with
        | ']' :: behind => some (first :: rest.takeWhile fun c => c ≠ '[' && c ≠ ']', behind)
        | _ => none
      else none
  | _ => none

theorem length_of_frontTag? {text content behind : List Char}
    (front : frontTag? text = some (content, behind)) : behind.length < text.length := by
  unfold frontTag? at front
  split at front
  · rename_i first rest
    split at front
    · split at front
      · rename_i tail dropped
        simp only [Option.some.injEq, Prod.mk.injEq] at front
        have shorter := (List.dropWhile_suffix (l := rest) fun c => c ≠ '[' && c ≠ ']').length_le
        rw [dropped, front.2] at shorter
        simp only [List.length_cons] at shorter ⊢
        omega
      · simp at front
    · simp at front
  · simp at front

def frontSlashes (text : List Char) : List Char :=
  text.takeWhile (· = '\\')

theorem length_behind_slashes {text content behind : List Char}
    (front : frontTag? (text.drop (frontSlashes text).length) = some (content, behind)) :
    behind.length < text.length := by
  have shorter := length_of_frontTag? front
  simp only [List.length_drop] at shorter
  omega

def escapeTags (text : List Char) : List Char :=
  match text with
  | [] => []
  | c :: rest =>
      match _ : frontTag? ((c :: rest).drop (frontSlashes (c :: rest)).length) with
      | some (content, behind) =>
          let slashes := frontSlashes (c :: rest)
          slashes ++ slashes ++ '\\' :: '[' :: content ++ ']' :: escapeTags behind
      | none => c :: escapeTags rest
termination_by text.length
decreasing_by
  · exact length_behind_slashes (by assumption)
  · simp

-- A text as marked-up text that shows it. A single backslash at the end is doubled too, so that it does not stand in front of
-- a tag that follows.
def escape (text : String) : String :=
  let letters := escapeTags text.toList
  let slashes := frontSlashes letters.reverse
  String.ofList (if slashes.length = 1 then letters ++ slashes else letters)

inductive Piece where
  | text (letters : List Char)
  | tag (content : List Char)
deriving DecidableEq

def textPiece (letters : List Char) : List Piece :=
  if letters.isEmpty then [] else [.text letters]

-- The parts of a tag behind some backslashes, of which two stand for one and a single one shows the tag.
def tagPieces (slashes : Nat) (content : List Char) : List Piece :=
  textPiece (List.replicate (slashes / 2) '\\') ++
    if slashes % 2 = 0 then [.tag content] else [.text ('[' :: content ++ [']'])]

def piecesBehind (held : List Char) (text : List Char) : List Piece :=
  match text with
  | [] => textPiece held.reverse
  | c :: rest =>
      match _ : frontTag? ((c :: rest).drop (frontSlashes (c :: rest)).length) with
      | some (content, behind) =>
          textPiece held.reverse ++ tagPieces (frontSlashes (c :: rest)).length content ++
            piecesBehind [] behind
      | none => piecesBehind (c :: held) rest
termination_by text.length
decreasing_by
  · exact length_behind_slashes (by assumption)
  · simp

def pieces (text : List Char) : List Piece :=
  piecesBehind [] text

def openBrackets : List Char → List Char
  | '\\' :: '[' :: rest => '[' :: openBrackets rest
  | c :: rest => c :: openBrackets rest
  | [] => []

structure Tag where
  name : String
  parameters : Option (List Char) := none

inductive Fault where
  | notOpen (name : String)
  | nothingOpen
  | badParameters
  | badColor
deriving DecidableEq

def splitContent (content : List Char) : List Char × Option (List Char) :=
  match content.dropWhile (· ≠ '=') with
  | _ :: parameters => (content.takeWhile (· ≠ '='), some parameters)
  | [] => (content, none)

def styleName (name : List Char) : Except Fault String :=
  match Style.normalized name with
  | .ok name => .ok name
  | .error _ => .error .badColor

def Tag.description (tag : Tag) : List Char :=
  tag.name.toList ++ (tag.parameters.map fun parameters => ' ' :: parameters).getD []

-- Checks what a tag that is closed says. A description of no style counts for nothing, but the parts of colors have to be
-- numbers.
def Tag.check (tag : Tag) : Except Fault Unit :=
  match Style.read tag.description with
  | .error .notNumber => .error .badColor
  | _ => .ok ()

structure Shown where
  text : List Char := []
  opened : List Tag := []
  closed : List Tag := []

def Tag.lacksAction (tag : Tag) : Bool :=
  tag.name.front? = some '@' &&
    tag.parameters.any fun parameters =>
      !parameters.isEmpty && !Argument.isAction (Text.trim parameters)

def close (shown : Shown) (name : String) : Except Fault Shown :=
  match shown.opened.find? fun tag => name = "" || tag.name = name with
  | some tag =>
      if tag.lacksAction then .error .badParameters
      else
        .ok { shown with
          opened := shown.opened.eraseP fun tag => name = "" || tag.name = name
          closed := tag :: shown.closed }
  | none => .error (if name = "" then .nothingOpen else .notOpen name)

def Shown.add (shown : Shown) : Piece → Except Fault Shown
  | .text letters => .ok { shown with text := shown.text ++ Text.withEmoji (openBrackets letters) }
  | .tag content =>
      let (name, parameters) := splitContent content
      match name with
      | '/' :: name =>
          if Text.allBlank name then close shown ""
          else do close shown (← styleName (Text.trim name))
      | name => do
          let tag : Tag := { name := ← styleName name, parameters }
          return { shown with opened := tag :: shown.opened }

def render (markup : String) : Except Fault (List Char) := do
  let shown ← (pieces markup.toList).foldlM Shown.add {}
  (shown.closed ++ shown.opened).forM Tag.check
  return shown.text

end PipelineLint.Markup
