import PipelineLint.Text.Blank
import PipelineLint.Text.CellWidth

set_option autoImplicit false

namespace PipelineLint.Wrap

def words (text : List Char) : List (List Char) :=
  let parts := text.splitBy fun a b => !(Text.isBlank a && !Text.isBlank b)
  match parts with
  | first :: second :: rest => if Text.allBlank first then (first ++ second) :: rest else parts
  | [only] => if Text.allBlank only then [] else parts
  | [] => []

def chop (width : Nat) : (used : Nat) → (held : List Char) → List Char → List (List Char)
  | _, held, [] => [held.reverse]
  | used, held, c :: rest =>
      let wide := Text.cellWidth c
      if width < used + wide then held.reverse :: chop width wide [c] rest
      else chop width (used + wide) (c :: held) rest

-- Where lines begin: the columns that the last one has so far, and the places where the others start, the last one first.
structure Breaks where
  used : Nat := 0
  starts : List Nat := []

def Breaks.startAt (breaks : Breaks) (place : Nat) : Breaks :=
  if place = 0 then breaks else { breaks with starts := place :: breaks.starts }

def Breaks.addParts (breaks : Breaks) (place : Nat) : List (List Char) → Breaks
  | [] => breaks
  | [last] => { breaks.startAt place with used := Text.cellLength last }
  | part :: rest => (breaks.startAt place).addParts (place + part.length) rest

def Breaks.addWord (width : Nat) (breaks : Breaks) (place : Nat) (word : List Char) : Breaks :=
  let needed := Text.cellLength (Text.trimRight word)
  if breaks.used + needed ≤ width then { breaks with used := breaks.used + Text.cellLength word }
  else if width < needed then breaks.addParts place (chop width 0 [] word)
  else if breaks.used ≠ 0 && place ≠ 0 then
    { breaks.startAt place with used := Text.cellLength word }
  else breaks

def Breaks.addWords (width : Nat) (breaks : Breaks) (place : Nat) : List (List Char) → Breaks
  | [] => breaks
  | word :: rest => (breaks.addWord width place word).addWords width (place + word.length) rest

def cutAt (start : Nat) (text : List Char) : List Nat → List (List Char)
  | [] => [text]
  | place :: rest => text.take (place - start) :: cutAt place (text.drop (place - start)) rest

-- A line without the blanks at its end that are too many, by the number of its characters.
def dropExcess (width : Nat) (line : List Char) : List Char :=
  let blanks := line.length - (Text.trimRight line).length
  line.take (line.length - min blanks (line.length - width))

-- The start of a line that fits into a width; half a character leaves a space.
def crop (width : Nat) (line : List Char) : List Char :=
  if Text.cellLength line ≤ width then line
  else
    match chop width 0 [] line with
    | first :: _ => first ++ List.replicate (width - Text.cellLength first) ' '
    | [] => []

def lines (width : Nat) (line : List Char) : List (List Char) :=
  let breaks := Breaks.addWords width {} 0 (words line)
  (cutAt 0 line breaks.starts.reverse).map fun line => crop width (dropExcess width line)

end PipelineLint.Wrap
