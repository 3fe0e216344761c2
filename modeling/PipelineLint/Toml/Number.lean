import PipelineLint.Number.Numeral
import PipelineLint.Value.Basic

set_option autoImplicit false

namespace PipelineLint.Toml

inductive Fault where
  | malformed
  | integerTooLong
deriving DecidableEq

def takeDigits (test : Char → Bool) : List Char → List Char × List Char
  | [] => ([], [])
  | '_' :: d :: rest =>
      if test d then
        let (digits, after) := takeDigits test rest
        (d :: digits, after)
      else ([], '_' :: d :: rest)
  | c :: rest =>
      if test c then
        let (digits, after) := takeDigits test rest
        (c :: digits, after)
      else ([], c :: rest)

def takeDigits? (test : Char → Bool) (text : List Char) : Option (List Char × List Char) :=
  if text.head?.any test then some (takeDigits test text) else none

def valueIn (base : Nat) (digits : List Char) : Nat :=
  digits.foldl (fun n c => n * base + digit c) 0
where
  digit (c : Char) : Nat :=
    if c.isDigit then c.toNat - 48 else if 'a' ≤ c then c.toNat - 87 else c.toNat - 55

def isHex (c : Char) : Bool :=
  c.isDigit || ('a' ≤ c && c ≤ 'f') || ('A' ≤ c && c ≤ 'F')

def bases : List (Char × Nat × (Char → Bool)) := [
  ('x', 16, isHex), ('b', 2, fun c => c = '0' || c = '1'), ('o', 8, fun c => '0' ≤ c && c ≤ '7')
]

def takeBased? (text : List Char) : Option (Value × List Char) :=
  match text with
  | '0' :: letter :: rest =>
      match bases.lookup letter with
      | some (base, test) =>
          (takeDigits? test rest).map fun (digits, after) =>
            (.int (valueIn base digits : Nat), after)
      | none => none
  | _ => none

-- The whole digits of a decimal number: one zero, or digits that start with another one.
def takeWhole? (text : List Char) : Option (List Char × List Char) :=
  match text with
  | '0' :: rest => some (['0'], rest)
  | _ => takeDigits? Char.isDigit text

def takeFraction (text : List Char) : List Char × List Char :=
  match text with
  | '.' :: rest => (takeDigits? Char.isDigit rest).getD ([], text)
  | _ => ([], text)

def takeExponent? (text : List Char) : Option (Int × List Char) :=
  match text with
  | mark :: rest =>
      if mark = 'e' || mark = 'E' then
        let (negative, body) := Numeral.takeSign rest
        (takeDigits? Char.isDigit body).map fun (digits, after) =>
          let size : Int := valueIn 10 digits
          (if negative then -size else size, after)
      else none
  | [] => none

def takeDecimal? (text : List Char) : Option (Except Fault Value × List Char) :=
  let (negative, body) := Numeral.takeSign text
  match takeWhole? body with
  | none => none
  | some (whole, rest) =>
      let (fraction, rest) := takeFraction rest
      match takeExponent? rest with
      | some (exponent, after) =>
          some (.ok (.float (Numeral.Decimal.value ⟨negative, whole, fraction, exponent⟩)), after)
      | none =>
          if fraction = [] then
            match Numeral.boundedValue? negative whole with
            | some i => some (.ok (.int i), rest)
            | none => some (.error .integerTooLong, rest)
          else some (.ok (.float (Numeral.Decimal.value ⟨negative, whole, fraction, 0⟩)), rest)

def specialNumbers : List (String × Binary64) := [
  ("inf", .infinite false), ("nan", .nan), ("-inf", .infinite true), ("+inf", .infinite false),
  ("-nan", .nan), ("+nan", .nan)
]

def takeWord? {α : Type} (words : List (String × α)) (text : List Char) : Option (α × List Char) :=
  (words.find? fun entry => entry.1.toList.isPrefixOf text).map fun entry =>
    (entry.2, text.drop entry.1.toList.length)

def takeFixed? (count least most : Nat) (text : List Char) : Option (Nat × List Char) :=
  let digits := text.take count
  let n := valueIn 10 digits
  if digits.length = count && digits.all Char.isDigit && least ≤ n && n ≤ most then
    some (n, text.drop count)
  else none

def after? (c : Char) : List Char → Option (List Char)
  | [] => none
  | d :: rest => if d = c then some rest else none

def takeMicroseconds (text : List Char) : Nat × List Char :=
  match text with
  | '.' :: rest =>
      match rest.takeWhile Char.isDigit with
      | [] => (0, text)
      | digits =>
          let six := digits.take 6
          (valueIn 10 six * Nat.pow 10 (6 - six.length), rest.drop digits.length)
  | _ => (0, text)

def takeClock? (text : List Char) : Option (Clock × List Char) := do
  let (hour, text) ← takeFixed? 2 0 23 text
  let (minute, text) ← takeFixed? 2 0 59 (← after? ':' text)
  let (second, text) ← takeFixed? 2 0 59 (← after? ':' text)
  let (microsecond, text) := takeMicroseconds text
  return (⟨hour, minute, second, microsecond⟩, text)

def takeDay? (text : List Char) : Option (Day × List Char) := do
  let (year, text) ← takeFixed? 4 0 9999 text
  let (month, text) ← takeFixed? 2 1 12 (← after? '-' text)
  let (day, text) ← takeFixed? 2 1 31 (← after? '-' text)
  return (⟨year, month, day⟩, text)

def takeOffset? (text : List Char) : Option (Int × List Char) :=
  match text with
  | sign :: rest =>
      if sign = 'Z' || sign = 'z' then some (0, rest)
      else if sign = '+' || sign = '-' then do
        let (hours, rest) ← takeFixed? 2 0 23 rest
        let (minutes, rest) ← takeFixed? 2 0 59 (← after? ':' rest)
        let size : Int := (60 * hours + minutes : Nat)
        return (if sign = '-' then -size else size, rest)
      else none
  | [] => none

def takeDayClock? (text : List Char) : Option (Clock × Option Int × List Char) :=
  match text with
  | mark :: rest =>
      if mark = 'T' || mark = 't' || mark = ' ' then
        match takeClock? rest with
        | some (clock, after) =>
            match takeOffset? after with
            | some (offset, final) => some (clock, some offset, final)
            | none => some (clock, none, after)
        | none => none
      else none
  | [] => none

-- A date, a time or both. A day that the calendar does not have is refused.
def takeMoment? (text : List Char) : Option (Except Fault Value × List Char) :=
  match takeDay? text with
  | some (day, rest) =>
      if day.isReal then
        match takeDayClock? rest with
        | some (clock, offset, after) =>
            some (.ok (.scalar (.moment (.both day clock offset))), after)
        | none => some (.ok (.scalar (.moment (.day day))), rest)
      else some (.error .malformed, rest)
  | none =>
      (takeClock? text).map fun (clock, rest) => (.ok (.scalar (.moment (.clock clock))), rest)

def takeNumber? (text : List Char) : Option (Except Fault Value × List Char) :=
  (takeMoment? text).orElse fun _ =>
    ((takeBased? text).map fun (value, rest) => (.ok value, rest)).orElse fun _ =>
      (takeDecimal? text).orElse fun _ =>
        (takeWord? specialNumbers text).map fun (x, rest) => (.ok (.float x), rest)

end PipelineLint.Toml
