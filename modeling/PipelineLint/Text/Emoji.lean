import PipelineLint.Text.Blank
import PipelineLint.Text.Case
import PipelineLint.Text.EmojiTable

set_option autoImplicit false

namespace PipelineLint.Text

def valueBehind? (name : List Char) : List (List Char) → Option (List Char)
  | key :: value :: rest => if key = name then some value else valueBehind? name rest
  | _ => none

def emoji? (name : List Char) : Option (List Char) :=
  emojiRows.findSome? fun row => valueBehind? name (row.toList.splitOn ' ')

def drawings : List (List Char × Char) := [
  ("-text".toList, Char.ofNat 0xFE0E), ("-emoji".toList, Char.ofNat 0xFE0F)]

def splitDrawing (name : List Char) : List Char × List Char :=
  match drawings.find? fun drawing => drawing.1.isSuffixOf name with
  | some (ending, mark) => (name.take (name.length - ending.length), [mark])
  | none => (name, [])

def namedEmoji? (name : List Char) : Option (List Char) :=
  let (plain, drawing) := splitDrawing name
  (emoji? (lower plain)).map (· ++ drawing)

def takeEmojiName? (text : List Char) : Option (List Char × List Char) :=
  match text.dropWhile fun c => c ≠ ':' && !isBlank c with
  | ':' :: behind => some (text.takeWhile fun c => c ≠ ':' && !isBlank c, behind)
  | _ => none

theorem length_of_takeEmojiName? {text name behind : List Char}
    (taken : takeEmojiName? text = some (name, behind)) : behind.length < text.length := by
  unfold takeEmojiName? at taken
  split at taken
  · rename_i tail dropped
    simp only [Option.some.injEq, Prod.mk.injEq] at taken
    have shorter := (List.dropWhile_suffix (l := text) fun c => c ≠ ':' && !isBlank c).length_le
    rw [dropped, taken.2] at shorter
    simp only [List.length_cons] at shorter
    omega
  · simp at taken

def withEmoji (text : List Char) : List Char :=
  match text with
  | [] => []
  | c :: rest =>
      if c = ':' then
        match _ : takeEmojiName? rest with
        | some (name, behind) =>
            (namedEmoji? name).getD (':' :: name ++ [':']) ++ withEmoji behind
        | none => c :: withEmoji rest
      else c :: withEmoji rest
termination_by text.length
decreasing_by
  · have := length_of_takeEmojiName? (by assumption)
    simp only [List.length_cons]
    omega
  · simp
  · simp

end PipelineLint.Text
