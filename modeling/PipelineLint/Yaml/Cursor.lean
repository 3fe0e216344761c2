set_option autoImplicit false

namespace PipelineLint.Yaml

inductive Fault where
  | malformed
  | badNumber
  | emptyNumber
  | badSwitch
  | noSuchMoment
  | notMoment
  | momentOfMembers
  | numberTooLong
  | noSuchCharacter
  | codeTooLarge
  | tooDeep
deriving DecidableEq

-- The characters that end a line. A return is none: texts come with line feeds in their place.
def isBreak (c : Char) : Bool :=
  c = '\n' || c.toNat = 0x85 || c.toNat = 0x2028 || c.toNat = 0x2029

def plainBreak (c : Char) : Char :=
  if c.toNat = 0x85 then '\n' else c

def isGap (c : Char) : Bool :=
  c = ' ' || c = '\t'

def atGap : List Char → Bool
  | [] => true
  | c :: _ => isGap c || isBreak c

def atSpace : List Char → Bool
  | [] => true
  | c :: _ => c = ' ' || isBreak c

def atBreak : List Char → Bool
  | [] => true
  | c :: _ => isBreak c

def atSeparator : List Char → Bool
  | '-' :: '-' :: '-' :: rest => atGap rest
  | '.' :: '.' :: '.' :: rest => atGap rest
  | _ => false

theorem length_drop_succ {α : Type} {text rest : List α} {count : Nat} {c : α}
    (left : text.drop count = c :: rest) : (text.drop (count + 1)).length < text.length := by
  have some_left := congrArg List.length left
  simp only [List.length_drop, List.length_cons] at some_left ⊢
  omega

def byteOrderMark : Char := Char.ofNat 0xFEFF

structure Cursor where
  rest : List Char
  index : Nat := 0
  line : Nat := 0
  column : Nat := 0

namespace Cursor

def next (cursor : Cursor) : Cursor :=
  match cursor.rest with
  | [] => cursor
  | c :: rest =>
      if isBreak c then ⟨rest, cursor.index + 1, cursor.line + 1, 0⟩
      else
        ⟨rest, cursor.index + 1, cursor.line,
          if c = byteOrderMark then cursor.column else cursor.column + 1⟩

def advance : (count : Nat) → Cursor → Cursor
  | 0, cursor => cursor
  | count + 1, cursor => advance count cursor.next

def upTo (tail : List Char) (cursor : Cursor) : Cursor :=
  advance (cursor.rest.length - tail.length) cursor

def spaces (cursor : Cursor) : Nat :=
  (cursor.rest.takeWhile (· = ' ')).length

def filler (cursor : Cursor) : Nat :=
  match cursor.rest.dropWhile (· = ' ') with
  | '#' :: comment => cursor.spaces + 1 + (comment.takeWhile fun c => !isBreak c).length
  | _ => cursor.spaces

theorem rest_next (cursor : Cursor) : cursor.next.rest = cursor.rest.tail := by
  unfold next
  split
  · simp_all
  · rename_i left
    simp only [left, List.tail_cons]
    split <;> rfl

theorem rest_advance (count : Nat) (cursor : Cursor) :
    (cursor.advance count).rest = cursor.rest.drop count := by
  induction count generalizing cursor with
  | zero => rfl
  | succ count ih => simp [advance, ih, rest_next]

end Cursor

end PipelineLint.Yaml
