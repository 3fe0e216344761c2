import PipelineLint.Number.Numeral
import PipelineLint.Text.Quoted
import PipelineLint.Value.Basic

set_option autoImplicit false

namespace PipelineLint.Json

inductive Fault where
  | malformed
  | integerTooLong
  | tooDeep
deriving DecidableEq

-- How many lists and mappings within each other are read; any number if there is no bound.
abbrev Levels := Option Nat

def Levels.inside : Levels → Except Fault Levels
  | none => .ok none
  | some 0 => .error .tooDeep
  | some (levels + 1) => .ok (some levels)

abbrev Rest (text : List Char) := { rest : List Char // rest.length < text.length }

def isSpace (c : Char) : Bool :=
  c = ' ' || c = '\t' || c = '\n' || c = '\r'

def skipSpaces (text : List Char) : List Char :=
  text.dropWhile isSpace

theorem length_skipSpaces_le (text : List Char) : (skipSpaces text).length ≤ text.length :=
  (List.dropWhile_sublist _).length_le

def unit? (a b c d : Char) : Option Nat :=
  Text.hexNumber? [a, b, c, d]

def escape? : Char → Option Char
  | '"' => some '"'
  | '\\' => some '\\'
  | '/' => some '/'
  | 'b' => some (Char.ofNat 8)
  | 'f' => some (Char.ofNat 12)
  | 'n' => some '\n'
  | 'r' => some '\r'
  | 't' => some '\t'
  | _ => none

def takeUnits? : List Char → Option (List Nat × List Char)
  | [] => none
  | '"' :: rest => some ([], rest)
  | '\\' :: 'u' :: a :: b :: c :: d :: rest =>
      match unit? a b c d, takeUnits? rest with
      | some unit, some (units, after) => some (unit :: units, after)
      | _, _ => none
  | '\\' :: c :: rest =>
      match escape? c, takeUnits? rest with
      | some plain, some (units, after) => some (plain.toNat :: units, after)
      | _, _ => none
  | c :: rest =>
      if c.toNat < 32 then none
      else
        match takeUnits? rest with
        | some (units, after) => some (c.toNat :: units, after)
        | none => none

-- Characters for code units: a high and a low surrogate in a row are one character.
def joinUnits : List Nat → List Char
  | [] => []
  | high :: low :: rest =>
      if 0xD800 ≤ high && high < 0xDC00 && 0xDC00 ≤ low && low < 0xE000 then
        Char.ofNat (0x10000 + (high - 0xD800) * 0x400 + (low - 0xDC00)) :: joinUnits rest
      else Text.charOfCode high :: joinUnits (low :: rest)
  | [unit] => [Text.charOfCode unit]

theorem length_takeUnits? {text : List Char} {units : List Nat} {after : List Char}
    (taken : takeUnits? text = some (units, after)) : after.length < text.length := by
  fun_induction takeUnits? text generalizing units after <;> simp_all <;> omega

def takeString (text : List Char) : Except Fault (String × Rest text) :=
  match taken : takeUnits? text with
  | some (units, after) => .ok (String.ofList (joinUnits units), ⟨after, length_takeUnits? taken⟩)
  | none => .error .malformed

def afterWord? : (word text : List Char) → Option (List Char)
  | [], text => some text
  | _ :: _, [] => none
  | w :: word, c :: rest => if w = c then afterWord? word rest else none

theorem length_afterWord? {word text rest : List Char} (taken : afterWord? word text = some rest) :
    rest.length + word.length = text.length := by
  fun_induction afterWord? word text <;> simp_all <;> omega

def takeWhole? : List Char → Option (List Char × List Char)
  | '0' :: rest => some (['0'], rest)
  | c :: rest =>
      if c.isDigit then some (c :: rest.takeWhile Char.isDigit, rest.dropWhile Char.isDigit)
      else none
  | [] => none

theorem length_takeWhole? {text digits rest : List Char}
    (taken : takeWhole? text = some (digits, rest)) : rest.length < text.length := by
  fun_cases takeWhole? text with
  | case1 rest => simp_all [takeWhole?]
  | case2 c tail notZero digit =>
      simp only [takeWhole?, digit, if_true, Option.some.injEq, Prod.mk.injEq] at taken
      have := (List.dropWhile_sublist (l := tail) Char.isDigit).length_le
      rw [← taken.2]
      simp
      omega
  | case3 c tail notZero digit => simp_all [takeWhole?]
  | case4 => simp [takeWhole?] at taken

-- The digits after a point; none if there is no point with a digit behind it.
def takeFraction (text : List Char) : List Char × List Char :=
  match text with
  | '.' :: rest =>
      if (rest.takeWhile Char.isDigit).isEmpty then ([], text)
      else (rest.takeWhile Char.isDigit, rest.dropWhile Char.isDigit)
  | _ => ([], text)

theorem length_takeFraction_le (text : List Char) :
    (takeFraction text).2.length ≤ text.length := by
  unfold takeFraction
  split
  · rename_i rest
    split
    · simp
    · have := (List.dropWhile_sublist (l := rest) Char.isDigit).length_le
      simp
      omega
  · simp

def takeExponent (text : List Char) : Option Int × List Char :=
  match text with
  | mark :: rest =>
      if mark = 'e' || mark = 'E' then
        let (negative, body) := Numeral.takeSign rest
        let digits := body.takeWhile Char.isDigit
        if digits.isEmpty then (none, text)
        else
          let size : Int := Text.digitsValue digits
          (some (if negative then -size else size), body.dropWhile Char.isDigit)
      else (none, text)
  | [] => (none, [])

theorem length_takeSign_le (text : List Char) : (Numeral.takeSign text).2.length ≤ text.length := by
  unfold Numeral.takeSign
  split <;> simp

theorem length_takeExponent_le (text : List Char) :
    (takeExponent text).2.length ≤ text.length := by
  unfold takeExponent
  split
  · rename_i mark rest
    split
    · have signed := length_takeSign_le rest
      dsimp only
      split
      · simp
      · have := (List.dropWhile_sublist (l := (Numeral.takeSign rest).2) Char.isDigit).length_le
        simp
        omega
    · simp
  · simp

def takeNumber (negative : Bool) (text : List Char) : Except Fault (Value × Rest text) :=
  match taken : takeWhole? text with
  | none => .error .malformed
  | some (whole, rest) =>
      let fraction := takeFraction rest
      let exponent := takeExponent fraction.2
      have shorter : exponent.2.length < text.length :=
        Nat.lt_of_le_of_lt
          (Nat.le_trans (length_takeExponent_le fraction.2) (length_takeFraction_le rest))
          (length_takeWhole? taken)
      match fraction.1, exponent.1 with
      | [], none =>
          match Numeral.boundedValue? negative whole with
          | some i => .ok (.int i, ⟨exponent.2, shorter⟩)
          | none => .error .integerTooLong
      | digits, power =>
          let number : Numeral.Decimal := ⟨negative, whole, digits, power.getD 0⟩
          .ok (.float number.value, ⟨exponent.2, shorter⟩)

def words : List (String × Value) := [
  ("null", .null), ("true", .bool true), ("false", .bool false), ("NaN", .float .nan),
  ("Infinity", .float (.infinite false)), ("-Infinity", .float (.infinite true))
]

def takeWord? (text : List Char) : Option (Value × List Char) :=
  words.findSome? fun (word, value) => (afterWord? word.toList text).map (value, ·)

theorem words_ne_empty : ∀ entry ∈ words, 0 < entry.1.toList.length := by
  decide

theorem length_takeWord? {text rest : List Char} {value : Value}
    (taken : takeWord? text = some (value, rest)) : rest.length < text.length := by
  obtain ⟨⟨word, held⟩, member, found⟩ := List.exists_of_findSome?_eq_some taken
  obtain ⟨after, hit, same⟩ := Option.map_eq_some_iff.mp found
  have long : 0 < word.toList.length := words_ne_empty (word, held) member
  have lengths := length_afterWord? hit
  obtain ⟨rfl, rfl⟩ := Prod.mk.inj same
  omega

def takeSigned (text : List Char) : Except Fault (Value × Rest text) :=
  match text with
  | '-' :: rest =>
      match takeNumber true rest with
      | .ok (value, ⟨after, shorter⟩) => .ok (value, ⟨after, Nat.lt_succ_of_lt shorter⟩)
      | .error fault => .error fault
  | text => takeNumber false text

def takeSimple (text : List Char) : Except Fault (Value × Rest text) :=
  match taken : takeWord? text with
  | some (value, after) => .ok (value, ⟨after, length_takeWord? taken⟩)
  | none => takeSigned text

mutual

def takeValue (levels : Levels) (text : List Char) : Except Fault (Value × Rest text) :=
  match text with
  | '"' :: rest =>
      match takeString rest with
      | .ok (s, ⟨after, shorter⟩) => .ok (.str s, ⟨after, Nat.lt_succ_of_lt shorter⟩)
      | .error fault => .error fault
  | '[' :: rest =>
      match levels.inside with
      | .error fault => .error fault
      | .ok inside =>
          match startsWith : skipSpaces rest with
          | ']' :: after =>
              .ok (.list [], ⟨after, by
                have := length_skipSpaces_le rest
                rw [startsWith] at this
                simp at this ⊢
                omega⟩)
          | _ =>
              match takeItems inside rest with
              | .ok (items, ⟨after, shorter⟩) =>
                  .ok (.list items, ⟨after, Nat.lt_succ_of_lt shorter⟩)
              | .error fault => .error fault
  | '\x7b' :: rest =>
      match levels.inside with
      | .error fault => .error fault
      | .ok inside =>
          match startsWith : skipSpaces rest with
          | '\x7d' :: after =>
              .ok (.map [], ⟨after, by
                have := length_skipSpaces_le rest
                rw [startsWith] at this
                simp at this ⊢
                omega⟩)
          | _ =>
              match takeMembers inside [] rest with
              | .ok (entries, ⟨after, shorter⟩) =>
                  .ok (.map entries, ⟨after, Nat.lt_succ_of_lt shorter⟩)
              | .error fault => .error fault
  | text => takeSimple text
termination_by (text.length, 0)

def takeItems (levels : Levels) (text : List Char) : Except Fault (List Value × Rest text) :=
  match takeValue levels (skipSpaces text) with
  | .error fault => .error fault
  | .ok (item, ⟨after, shorter⟩) =>
      have spaced := length_skipSpaces_le text
      have skipped := length_skipSpaces_le after
      match next : skipSpaces after with
      | ']' :: rest =>
          .ok ([item], ⟨rest, by rw [next] at skipped; simp at skipped; omega⟩)
      | ',' :: rest =>
          have smaller : rest.length < text.length := by
            rw [next] at skipped; simp at skipped; omega
          match takeItems levels rest with
          | .ok (items, ⟨final, less⟩) => .ok (item :: items, ⟨final, Nat.lt_trans less smaller⟩)
          | .error fault => .error fault
      | _ => .error .malformed
termination_by (text.length, 1)
decreasing_by
  · have := length_skipSpaces_le text
    rcases Nat.lt_or_eq_of_le this with less | same
    · exact Prod.Lex.left _ _ less
    · rw [same]; exact Prod.Lex.right _ (by decide)
  · exact Prod.Lex.left _ _ smaller

-- The members of a mapping up to its closing brace, put after those already read.
def takeMembers (levels : Levels) (entries : Entries) (text : List Char) :
    Except Fault (Entries × Rest text) :=
  have spaced := length_skipSpaces_le text
  match opened : skipSpaces text with
  | '"' :: rest =>
      match takeString rest with
      | .error fault => .error fault
      | .ok (key, ⟨afterKey, shorter⟩) =>
          have skipped := length_skipSpaces_le afterKey
          match colon : skipSpaces afterKey with
          | ':' :: afterColon =>
              have smaller : afterColon.length < text.length := by
                rw [opened] at spaced; rw [colon] at skipped; simp at spaced skipped; omega
              have trimmed := length_skipSpaces_le afterColon
              match takeValue levels (skipSpaces afterColon) with
              | .error fault => .error fault
              | .ok (value, ⟨after, less⟩) =>
                  have gap := length_skipSpaces_le after
                  match next : skipSpaces after with
                  | '\x7d' :: final =>
                      .ok (entries.put (.str key) value, ⟨final, by
                        rw [next] at gap; simp at gap; omega⟩)
                  | ',' :: more =>
                      have fewer : more.length < text.length := by
                        rw [next] at gap; simp at gap; omega
                      match takeMembers levels (entries.put (.str key) value) more with
                      | .ok (all, ⟨final, last⟩) => .ok (all, ⟨final, Nat.lt_trans last fewer⟩)
                      | .error fault => .error fault
                  | _ => .error .malformed
          | _ => .error .malformed
  | _ => .error .malformed
termination_by (text.length, 1)
decreasing_by
  · exact Prod.Lex.left _ _ (by omega)
  · exact Prod.Lex.left _ _ fewer

end

def read (levels : Levels) (text : List Char) : Except Fault Value :=
  match takeValue levels (skipSpaces text) with
  | .error fault => .error fault
  | .ok (value, ⟨rest, _⟩) => if skipSpaces rest = [] then .ok value else .error .malformed

end PipelineLint.Json
