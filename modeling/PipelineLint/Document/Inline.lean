import PipelineLint.Document.Fault
import PipelineLint.Number.Radix
import PipelineLint.Text.Lines
import PipelineLint.Value.Basic

set_option autoImplicit false

namespace PipelineLint.Document

def opensQuote (before : Option Char) : Bool :=
  match before with
  | none => true
  | some c => [' ', '\t', '[', '\x7b', ',', ':'].contains c

def opensComment (before : Option Char) : Bool :=
  match before with
  | none => true
  | some c => c = ' ' || c = '\t'

def beforeComment? :
    (quote : Option Char) → (before : Option Char) → List Char → Option (List Char)
  | _, _, [] => none
  | some quote, _, c :: rest =>
      (beforeComment? (if c = quote then none else some quote) (some c) rest).map (c :: ·)
  | none, before, c :: rest =>
      if (c = '"' || c = '\'') && opensQuote before then
        (beforeComment? (some c) (some c) rest).map (c :: ·)
      else if c = '#' && opensComment before then some []
      else (beforeComment? none (some c) rest).map (c :: ·)

def stripComment (text : List Char) : List Char :=
  match beforeComment? none none text with
  | some kept => Text.trimRight kept
  | none => text

def nullWords : List String := ["null", "Null", "NULL", "~"]

def trueWords : List String := ["true", "yes", "on"]

def falseWords : List String := ["false", "no", "off"]

def coercePlain (text : List Char) : Except Fault Value :=
  let word := String.ofList text
  let small := String.ofList (Text.lower text)
  if nullWords.contains word then .ok .null
  else if trueWords.contains small then .ok (.bool true)
  else if falseWords.contains small then .ok (.bool false)
  else
    match Numeral.integer? text with
    | some (negative, digits) =>
        match Numeral.boundedValue? negative digits with
        | some i => .ok (.int i)
        | none => .error .integerTooLong
    | none =>
        match Numeral.decimal? text with
        | some number => .ok (.float number.value)
        | none => .ok (.str word)

def simpleEscape? : Char → Option Char
  | 'n' => some '\n'
  | 't' => some '\t'
  | 'r' => some '\r'
  | '0' => some (Char.ofNat 0)
  | '"' => some '"'
  | '\\' => some '\\'
  | '/' => some '/'
  | ' ' => some ' '
  | _ => none

-- The code point that the four characters of a long escape spell. Margins, a sign, the mark of a hexadecimal number and
-- single underscores are let pass; a negative number is none.
def escapedCode? (text : List Char) : Option Nat :=
  match Numeral.radixInteger? 16 text with
  | some (negative, code) => if negative && code != 0 then none else some code
  | none => none

inductive QuotedText where
  | closed (content rest : List Char)
  | unterminated
  | badEscape

def QuotedText.push (c : Char) : QuotedText → QuotedText
  | .closed content rest => .closed (c :: content) rest
  | other => other

def takeSingle : List Char → QuotedText
  | [] => .unterminated
  | '\'' :: '\'' :: rest => (takeSingle rest).push '\''
  | '\'' :: rest => .closed [] rest
  | c :: rest => (takeSingle rest).push c

-- The inside of a text in double quotes, with backslash escapes. A backslash in front of another character stands for itself.
def takeDouble : List Char → QuotedText
  | [] => .unterminated
  | '"' :: rest => .closed [] rest
  | '\\' :: 'u' :: a :: b :: c :: d :: rest =>
      match escapedCode? [a, b, c, d] with
      | some code => (takeDouble rest).push (Text.charOfCode code)
      | none => .badEscape
  | '\\' :: c :: rest =>
      match simpleEscape? c with
      | some plain => (takeDouble rest).push plain
      | none => ((takeDouble rest).push c).push '\\'
  | c :: rest => (takeDouble rest).push c

theorem QuotedText.push_eq_closed {c : Char} {inside : QuotedText} {content rest : List Char}
    (closes : inside.push c = .closed content rest) :
    ∃ before, inside = .closed before rest := by
  cases inside with
  | closed before after =>
      simp only [QuotedText.push, QuotedText.closed.injEq] at closes
      exact ⟨before, by rw [closes.2]⟩
  | _ => simp [QuotedText.push] at closes

theorem length_takeSingle {text content rest : List Char}
    (closes : takeSingle text = .closed content rest) : rest.length < text.length := by
  fun_induction takeSingle text generalizing content rest with
  | case1 => cases closes
  | case2 tail ih =>
      obtain ⟨_, inner⟩ := QuotedText.push_eq_closed closes
      have := ih inner
      simp
      omega
  | case3 tail => simp_all
  | case4 c tail _ _ ih =>
      obtain ⟨_, inner⟩ := QuotedText.push_eq_closed closes
      have := ih inner
      simp
      omega

theorem length_takeDouble {text content rest : List Char}
    (closes : takeDouble text = .closed content rest) : rest.length < text.length := by
  fun_induction takeDouble text generalizing content rest with
  | case1 => cases closes
  | case2 tail => simp_all
  | case3 a b c d tail code _ ih =>
      obtain ⟨_, inner⟩ := QuotedText.push_eq_closed closes
      have := ih inner
      simp
      omega
  | case4 => cases closes
  | case5 c tail _ plain _ ih =>
      obtain ⟨_, inner⟩ := QuotedText.push_eq_closed closes
      have := ih inner
      simp
      omega
  | case6 c tail _ _ ih =>
      obtain ⟨_, outer⟩ := QuotedText.push_eq_closed closes
      obtain ⟨_, inner⟩ := QuotedText.push_eq_closed outer
      have := ih inner
      simp
      omega
  | case7 c tail _ _ _ ih =>
      obtain ⟨_, inner⟩ := QuotedText.push_eq_closed closes
      have := ih inner
      simp
      omega

def isQuote (c : Char) : Bool :=
  c = '"' || c = '\''

def takeQuoted (quote : Char) (text : List Char) :
    Except Fault (String × { rest : List Char // rest.length < text.length }) :=
  if quote = '\'' then
    match closes : takeSingle text with
    | .closed content rest => .ok (String.ofList content, ⟨rest, length_takeSingle closes⟩)
    | .badEscape => .error .badEscape
    | .unterminated => .error (.malformed (.unterminatedQuoted (quote :: text)) none)
  else
    match closes : takeDouble text with
    | .closed content rest => .ok (String.ofList content, ⟨rest, length_takeDouble closes⟩)
    | .badEscape => .error .badEscape
    | .unterminated => .error (.malformed (.unterminatedQuoted (quote :: text)) none)

def isFlowSpace (c : Char) : Bool :=
  c = ' ' || c = '\t' || c = '\n'

def skipFlowSpaces (text : List Char) : List Char :=
  text.dropWhile isFlowSpace

theorem length_skipFlowSpaces_le (text : List Char) :
    (skipFlowSpaces text).length ≤ text.length :=
  (List.dropWhile_sublist _).length_le

def itemStops : List Char := [',', ']']

def keyStops : List Char := [':', ',', '\x7d']

def entryStops : List Char := [',', '\x7d']

def opensFlow (c : Char) : Bool :=
  c = '[' || c = '\x7b'

abbrev Remainder (text : List Char) := { rest : List Char // rest.length ≤ text.length }

abbrev Shorter (text : List Char) := { rest : List Char // rest.length < text.length }

mutual

def takeFlow (whole stops text : List Char) : Except Fault (Value × Remainder text) :=
  match text with
  | [] => .error (.malformed .unterminatedFlow none)
  | c :: rest =>
      if isFlowSpace c then
        match takeFlow whole stops rest with
        | .ok (value, ⟨after, shorter⟩) => .ok (value, ⟨after, Nat.le_succ_of_le shorter⟩)
        | .error fault => .error fault
      else if c = '[' then
        match takeFlowItems whole rest with
        | .ok (items, ⟨after, shorter⟩) =>
            .ok (.list items, ⟨after, Nat.le_succ_of_le (Nat.le_of_lt shorter)⟩)
        | .error fault => .error fault
      else if c = '\x7b' then
        match takeFlowEntries whole [] rest with
        | .ok (entries, ⟨after, shorter⟩) =>
            .ok (.map entries, ⟨after, Nat.le_succ_of_le (Nat.le_of_lt shorter)⟩)
        | .error fault => .error fault
      else if isQuote c then
        match takeQuoted c rest with
        | .ok (s, ⟨after, shorter⟩) =>
            .ok (.str s, ⟨after, Nat.le_succ_of_le (Nat.le_of_lt shorter)⟩)
        | .error fault => .error fault
      else
        let plain := (c :: rest).takeWhile fun d => !stops.contains d
        let after := (c :: rest).dropWhile fun d => !stops.contains d
        match coercePlain (Text.trim plain) with
        | .ok value => .ok (value, ⟨after, (List.dropWhile_sublist _).length_le⟩)
        | .error fault => .error fault
termination_by (text.length, 0)

def takeFlowItems (whole text : List Char) : Except Fault (List Value × Shorter text) :=
  have spaced := length_skipFlowSpaces_le text
  match opened : skipFlowSpaces text with
  | ']' :: rest => .ok ([], ⟨rest, by rw [opened] at spaced; simp at spaced; omega⟩)
  | _ =>
      match takeFlow whole itemStops text with
      | .error fault => .error fault
      | .ok (item, ⟨after, shorter⟩) =>
          have skipped := length_skipFlowSpaces_le after
          match next : skipFlowSpaces after with
          | ',' :: more =>
              have fewer : more.length < text.length := by
                rw [next] at skipped; simp at skipped; omega
              match takeFlowItems whole more with
              | .ok (items, ⟨final, less⟩) => .ok (item :: items, ⟨final, Nat.lt_trans less fewer⟩)
              | .error fault => .error fault
          | ']' :: final =>
              .ok ([item], ⟨final, by rw [next] at skipped; simp at skipped; omega⟩)
          | _ => .error (.malformed (.expectedInFlow ']' whole) none)
termination_by (text.length, 1)

-- The entries of a mapping up to its closing brace, put after those already read. A key without a colon has the value null,
-- and so has a key with nothing behind its colon.
def takeFlowEntries (whole : List Char) (entries : Entries) (text : List Char) :
    Except Fault (Entries × Shorter text) :=
  have spaced := length_skipFlowSpaces_le text
  match opened : skipFlowSpaces text with
  | '\x7d' :: rest => .ok (entries, ⟨rest, by rw [opened] at spaced; simp at spaced; omega⟩)
  | _ =>
      match takeFlow whole keyStops text with
      | .error fault => .error fault
      | .ok (key, ⟨afterKey, keyShorter⟩) =>
          have skipped := length_skipFlowSpaces_le afterKey
          let value : Except Fault (Value × Remainder text) :=
            match colon : skipFlowSpaces afterKey with
            | ':' :: afterColon =>
                have smaller : afterColon.length < text.length := by
                  rw [colon] at skipped; simp at skipped; omega
                match skipFlowSpaces afterColon with
                | ',' :: _ => .ok (.null, ⟨afterColon, Nat.le_of_lt smaller⟩)
                | '\x7d' :: _ => .ok (.null, ⟨afterColon, Nat.le_of_lt smaller⟩)
                | _ =>
                    match takeFlow whole entryStops afterColon with
                    | .ok (value, ⟨after, less⟩) =>
                        .ok (value, ⟨after, Nat.le_trans less (Nat.le_of_lt smaller)⟩)
                    | .error fault => .error fault
            | _ => .ok (.null, ⟨afterKey, keyShorter⟩)
          match value with
          | .error fault => .error fault
          | .ok (value, ⟨after, shorter⟩) =>
              match key.key? with
              | none => .error .collectionAsKey
              | some key =>
                  have gap := length_skipFlowSpaces_le after
                  match next : skipFlowSpaces after with
                  | ',' :: more =>
                      have fewer : more.length < text.length := by
                        rw [next] at gap; simp at gap; omega
                      match takeFlowEntries whole (entries.put key value) more with
                      | .ok (all, ⟨final, less⟩) => .ok (all, ⟨final, Nat.lt_trans less fewer⟩)
                      | .error fault => .error fault
                  | '\x7d' :: final =>
                      .ok (entries.put key value, ⟨final, by
                        rw [next] at gap; simp at gap; omega⟩)
                  | _ => .error (.malformed (.expectedInFlow '\x7d' whole) none)
termination_by (text.length, 1)

end

def readFlow (text : List Char) : Except Fault Value :=
  match takeFlow text (']' :: entryStops) text with
  | .error fault => .error fault
  | .ok (value, ⟨after, _⟩) =>
      match skipFlowSpaces after with
      | [] => .ok value
      | rest => .error (.malformed (.afterFlow rest) none)

def readInline (text : List Char) : Except Fault Value :=
  match Text.trim text with
  | [] => .ok .null
  | c :: rest =>
      if opensFlow c then readFlow (c :: rest)
      else if isQuote c then
        match takeQuoted c rest with
        | .error fault => .error fault
        | .ok (s, ⟨after, _⟩) =>
            match Text.trim after with
            | [] => .ok (.str s)
            | extra => .error (.malformed (.afterQuoted extra) none)
      else coercePlain (c :: rest)

def openAfter : (depth : Int) → (quote : Option Char) → List Char → Int × Option Char
  | depth, quote, [] => (depth, quote)
  | depth, some quote, c :: rest => openAfter depth (if c = quote then none else some quote) rest
  | depth, none, c :: rest =>
      if isQuote c then openAfter depth (some c) rest
      else if opensFlow c then openAfter (depth + 1) none rest
      else if c = ']' || c = '\x7d' then openAfter (depth - 1) none rest
      else openAfter depth none rest

def isUnbalanced (text : List Char) : Bool :=
  let (depth, quote) := openAfter 0 none text
  0 < depth || quote.isSome

end PipelineLint.Document
