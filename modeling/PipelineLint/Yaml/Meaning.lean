import PipelineLint.Number.Radix
import PipelineLint.Text.Base64
import PipelineLint.Text.Quoted
import PipelineLint.Value.Basic
import PipelineLint.Yaml.Cursor

set_option autoImplicit false

namespace PipelineLint.Yaml

inductive Kind where
  | null
  | switch
  | int
  | float
  | moment
  | bytes
  | text
  | merge
  | default
  | list
  | mapping
  | pairs
  | set
  | unknown
deriving DecidableEq

def Kind.ofTag (tag : String) : Kind :=
  let tags : List (String × Kind) := [
    ("null", .null), ("bool", .switch), ("int", .int), ("float", .float), ("timestamp", .moment),
    ("binary", .bytes), ("str", .text), ("merge", .merge), ("value", .default), ("seq", .list),
    ("map", .mapping), ("omap", .pairs), ("pairs", .pairs), ("set", .set)]
  (tags.find? fun entry => "tag:yaml.org,2002:" ++ entry.1 == tag).elim .unknown Prod.snd

def nullWords : List String := ["", "~", "null", "Null", "NULL"]

def switchWords : List (String × Bool) := [
  ("yes", true), ("no", false), ("true", true), ("false", false), ("on", true), ("off", false)]

def isEvenlyCased (word : List Char) : Bool :=
  let lower := word.map Char.toLower
  word = lower || word = word.map Char.toUpper ||
    word = (match lower with
      | [] => []
      | first :: rest => first.toUpper :: rest)

def looksSwitch (text : List Char) : Bool :=
  isEvenlyCased text && (switchWords.lookup (String.ofList (text.map Char.toLower))).isSome

def isDigitOrLow (c : Char) : Bool :=
  c.isDigit || c = '_'

def startsWithDigit (text : List Char) : Bool :=
  text.head?.any Char.isDigit

def isExponent : List Char → Bool
  | [] => true
  | mark :: sign :: digits =>
      (mark = 'e' || mark = 'E') && (sign = '+' || sign = '-') && !digits.isEmpty &&
        digits.all Char.isDigit
  | _ => false

def isSixties : List Char → Bool
  | ':' :: a :: ':' :: rest => a.isDigit && isSixties (':' :: rest)
  | [':', a] => a.isDigit
  | [':', a, b] => '0' ≤ a && a ≤ '5' && b.isDigit
  | ':' :: a :: b :: ':' :: rest => '0' ≤ a && a ≤ '5' && b.isDigit && isSixties (':' :: rest)
  | _ => false

def unsigned (text : List Char) : List Char :=
  (Numeral.takeSign text).2

def splitPoint (text : List Char) : Option (List Char × List Char) :=
  match text.dropWhile (· ≠ '.') with
  | '.' :: behind => some (text.takeWhile (· ≠ '.'), behind)
  | _ => none

def looksFloat (text : List Char) : Bool :=
  let body := unsigned text
  if [".inf", ".Inf", ".INF"].contains (String.ofList body) then true
  else if [".nan", ".NaN", ".NAN"].contains (String.ofList text) then true
  else
    match splitPoint body with
    | none => false
    | some ([], behind) =>
        body = text && startsWithDigit behind && isExponent (behind.dropWhile isDigitOrLow)
    | some (whole, behind) =>
        if !startsWithDigit whole then false
        else
          match whole.dropWhile isDigitOrLow with
          | [] => isExponent (behind.dropWhile isDigitOrLow)
          | sixties => isSixties sixties && behind.all isDigitOrLow

def looksInt (text : List Char) : Bool :=
  match unsigned text with
  | ['0'] => true
  | '0' :: 'b' :: rest => !rest.isEmpty && rest.all fun c => c = '0' || c = '1' || c = '_'
  | '0' :: 'x' :: rest => !rest.isEmpty && rest.all fun c => (Text.hexValue? c).isSome || c = '_'
  | '0' :: rest => !rest.isEmpty && rest.all fun c => ('0' ≤ c && c ≤ '7') || c = '_'
  | body =>
      startsWithDigit body &&
        match body.dropWhile isDigitOrLow with
        | [] => true
        | sixties => isSixties sixties

structure Written where
  year : List Char
  month : List Char
  day : List Char
  clock : Option (List Char × List Char × List Char × List Char) := none
  offset : Option (Bool × List Char × List Char) := none

def takeDigits? (least most : Nat) (text : List Char) : Option (List Char × List Char) :=
  let digits := (text.take most).takeWhile Char.isDigit
  if least ≤ digits.length then some (digits, text.drop digits.length) else none

def behind? (c : Char) : List Char → Option (List Char)
  | [] => none
  | d :: rest => if d = c then some rest else none

def takeOffset? (text : List Char) : Option (Option (Bool × List Char × List Char)) :=
  match text.dropWhile isGap with
  | [] => if text.isEmpty then some none else none
  | ['Z'] => some (some (false, [], []))
  | sign :: rest =>
      if sign = '+' || sign = '-' then do
        let (hours, rest) ← takeDigits? 1 2 rest
        match rest with
        | [] => return some (sign = '-', hours, [])
        | _ =>
            let (minutes, rest) ← takeDigits? 2 2 (← behind? ':' rest)
            if rest.isEmpty then return some (sign = '-', hours, minutes) else none
      else none

def takeFraction (text : List Char) : List Char × List Char :=
  match text with
  | '.' :: rest => (rest.takeWhile Char.isDigit, rest.dropWhile Char.isDigit)
  | _ => ([], text)

def takeClock? (text : List Char) :
    Option ((List Char × List Char × List Char × List Char) × List Char) := do
  let (hour, text) ← takeDigits? 1 2 text
  let (minute, text) ← takeDigits? 2 2 (← behind? ':' text)
  let (second, text) ← takeDigits? 2 2 (← behind? ':' text)
  let (fraction, text) := takeFraction text
  return ((hour, minute, second, fraction), text)

def behindMark? (text : List Char) : Option (List Char) :=
  match text with
  | c :: rest =>
      if c = 'T' || c = 't' then some rest
      else if isGap c then some (rest.dropWhile isGap)
      else none
  | [] => none

def written? (text : List Char) : Option Written := do
  let (year, text) ← takeDigits? 4 4 text
  let (month, text) ← takeDigits? 1 2 (← behind? '-' text)
  let (day, text) ← takeDigits? 1 2 (← behind? '-' text)
  match text with
  | [] => return { year, month, day }
  | _ =>
      let (clock, text) ← takeClock? (← behindMark? text)
      return { year, month, day, clock := some clock, offset := ← takeOffset? text }

-- A date alone has two digits for its month and its day; with a time, one is enough.
def looksMoment (text : List Char) : Bool :=
  match written? text with
  | some written =>
      written.clock.isSome || (written.month.length = 2 && written.day.length = 2)
  | none => false

def withoutFeed (text : List Char) : List Char :=
  if text.length > 1 && text.getLast? = some '\n' then text.dropLast else text

def Kind.ofLook (text : List Char) : Kind :=
  if nullWords.contains (String.ofList text) then .null
  else if looksSwitch text then .switch
  else if looksFloat text then .float
  else if looksInt text then .int
  else if text = ['<', '<'] then .merge
  else if looksMoment text then .moment
  else if text = ['='] then .default
  else if [['!'], ['&'], ['*']].contains text then .unknown
  else .text

def Kind.ofPlain (text : List Char) : Kind :=
  Kind.ofLook (withoutFeed text)

def withoutLows (text : List Char) : List Char :=
  text.filter (· ≠ '_')

def splitColons : List Char → List (List Char)
  | [] => [[]]
  | c :: rest =>
      match splitColons rest with
      | [] => []
      | part :: parts => if c = ':' then [] :: part :: parts else (c :: part) :: parts

def sixtiesValue? (text : List Char) : Option Int :=
  (splitColons text).foldlM (fun value part =>
    (Numeral.settingInteger? part).map (value * 60 + ·)) 0

def radixValue? (base : Nat) (text : List Char) : Option Int :=
  (Numeral.radixInteger? base text).map fun (negative, size) =>
    if negative then -(size : Int) else size

-- The size of an integer without sign and underscores. A sign behind the mark of a base is one all the same.
def intSize? (body : List Char) : Option Int :=
  match body with
  | '0' :: 'b' :: rest => radixValue? 2 rest
  | '0' :: 'x' :: rest => radixValue? 16 rest
  | '0' :: _ => radixValue? 8 body
  | _ => if body.contains ':' then sixtiesValue? body else Numeral.settingInteger? body

def intValue (text : List Char) : Except Fault Int :=
  let (negative, body) := Numeral.takeSign (withoutLows text)
  if body.isEmpty then .error .emptyNumber
  else
    match intSize? body with
    | some size => .ok (if negative then -size else size)
    | none => .error .badNumber

def sixtiesSum (power : Nat) (sum : Binary64) : List Binary64 → Except Fault Binary64
  | [] => .ok sum
  | x :: rest =>
      match Binary64.ofInt? power with
      | some factor => sixtiesSum (power * 60) (sum.add (x.mul factor)) rest
      | none => .error .numberTooLong

def sixtiesFloat (body : List Char) : Except Fault Binary64 :=
  match (splitColons body).mapM Numeral.settingFloat? with
  | some parts => sixtiesSum 1 (.finite false 0 Binary64.leastExponent) parts.reverse
  | none => .error .badNumber

def floatSize (body : List Char) : Except Fault Binary64 :=
  if body = ".inf".toList then .ok (.infinite false)
  else if body = ".nan".toList then .ok .nan
  else if body.contains ':' then sixtiesFloat body
  else
    match Numeral.settingFloat? body with
    | some size => .ok size
    | none => .error .badNumber

def floatValue (text : List Char) : Except Fault Binary64 :=
  let (negative, body) := Numeral.takeSign ((withoutLows text).map Char.toLower)
  if (withoutLows text).isEmpty then .error .emptyNumber
  else (floatSize body).map fun size => if negative then size.neg else size

def number (digits : List Char) : Nat :=
  digits.foldl (fun value c => value * 10 + (c.toNat - 48)) 0

def microseconds (fraction : List Char) : Nat :=
  let six := fraction.take 6
  number six * Nat.pow 10 (6 - six.length)

def clock? (hour minute second fraction : List Char) : Option Clock :=
  let clock : Clock := ⟨number hour, number minute, number second, microseconds fraction⟩
  if clock.hour < 24 && clock.minute < 60 && clock.second < 60 then some clock else none

def offset? (negative : Bool) (hours minutes : List Char) : Option Int :=
  let size := 60 * number hours + number minutes
  if size < 24 * 60 then some (if negative then -(size : Int) else size) else none

def Written.moment? (written : Written) : Option Moment :=
  let day : Day := ⟨number written.year, number written.month, number written.day⟩
  if !day.isReal then none
  else
    match written.clock with
    | none => some (.day day)
    | some (hour, minute, second, fraction) => do
        let clock ← clock? hour minute second fraction
        match written.offset with
        | none => return .both day clock none
        | some (negative, hours, minutes) =>
            return .both day clock (some (← offset? negative hours minutes))

def momentValue (text : List Char) : Except Fault Moment :=
  match written? (withoutFeed text) with
  | none => .error .notMoment
  | some written =>
      match written.moment? with
      | some moment => .ok moment
      | none => .error .noSuchMoment

def switchValue (text : List Char) : Except Fault Bool :=
  match switchWords.lookup (String.ofList (text.map Char.toLower)) with
  | some on => .ok on
  | none => .error .badSwitch

def bytesValue (text : List Char) : Except Fault Scalar :=
  if text.all fun c => c.toNat < 128 then
    match Text.Base64.decode? text with
    | some bytes => .ok (.sealed (String.ofList (Text.quotedBytes bytes)) bytes.isEmpty)
    | none => .error .malformed
  else .error .malformed

def scalarValue (kind : Kind) (text : String) : Except Fault Scalar :=
  let letters := text.toList
  match kind with
  | .null => .ok .null
  | .switch => (switchValue letters).map Scalar.bool
  | .int => (intValue letters).map Scalar.int
  | .float => (floatValue letters).map Scalar.float
  | .moment => (momentValue letters).map Scalar.moment
  | .bytes => bytesValue letters
  | .text => .ok (.str text)
  | .merge | .default | .list | .mapping | .pairs | .set | .unknown => .error .malformed

end PipelineLint.Yaml
