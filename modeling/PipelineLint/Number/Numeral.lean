import PipelineLint.Number.Shortest
import PipelineLint.Text.Blank
import PipelineLint.Text.Case
import PipelineLint.Text.Digit

set_option autoImplicit false

namespace PipelineLint.Numeral

def maxDigits : Nat := 4300

def takeSign : List Char → Bool × List Char
  | '-' :: rest => (true, rest)
  | '+' :: rest => (false, rest)
  | text => (false, text)

def takeDigits (text : List Char) : List Char × List Char :=
  (text.takeWhile Text.isDecimal, text.dropWhile Text.isDecimal)

def atEnd (rest : List Char) : Bool :=
  rest = [] || rest = ['\n']

def integer? (text : List Char) : Option (Bool × List Char) :=
  let (negative, body) := takeSign text
  let (digits, rest) := takeDigits body
  if digits ≠ [] && atEnd rest then some (negative, digits) else none

structure Decimal where
  negative : Bool
  whole : List Char
  fraction : List Char
  exponent : Int
deriving DecidableEq

def Decimal.value (d : Decimal) : Binary64 :=
  Binary64.ofDecimal d.negative (Text.digitsValue (d.whole ++ d.fraction))
    (d.exponent - (d.fraction.length : Int))

def takeExponent (text : List Char) : Int × List Char :=
  match text with
  | mark :: rest =>
      if mark = 'e' || mark = 'E' then
        let (negative, body) := takeSign rest
        let (digits, after) := takeDigits body
        if digits = [] then (0, text)
        else
          let size : Int := Text.digitsValue digits
          (if negative then -size else size, after)
      else (0, text)
  | [] => (0, [])

def takeDecimal? (text : List Char) : Option (Decimal × List Char) :=
  let (negative, body) := takeSign text
  let (whole, rest) := takeDigits body
  let (fraction, rest) :=
    match rest with
    | '.' :: after => takeDigits after
    | _ => ([], rest)
  if whole = [] && fraction = [] then none
  else
    let (exponent, rest) := takeExponent rest
    some ({ negative, whole, fraction, exponent }, rest)

def decimal? (text : List Char) : Option Decimal :=
  match takeDecimal? text with
  | some (number, rest) => if atEnd rest then some number else none
  | none => none

def boundedValue? (negative : Bool) (digits : List Char) : Option Int :=
  if maxDigits < digits.length then none
  else
    let size : Int := Text.digitsValue digits
    some (if negative then -size else size)

-- Blanks that may surround a number in a setting: the ASCII ones without the separators, and all blanks above the ASCII
-- range.
def isMargin (c : Char) : Bool :=
  if c.toNat < 128 then (9 ≤ c.toNat && c.toNat ≤ 13) || c == ' ' else Text.isBlank c

def trimMargins (text : List Char) : List Char :=
  Text.dropTrailing isMargin (text.dropWhile isMargin)

-- The text without its underscores, each of which must stand between two digits.
def dropUnderscores? : (afterDigit : Bool) → List Char → Option (List Char)
  | _, [] => some []
  | afterDigit, '_' :: rest =>
      let beforeDigit := (rest.head?.map Text.isDecimal).getD false
      if afterDigit && beforeDigit then dropUnderscores? false rest else none
  | _, c :: rest => (dropUnderscores? (Text.isDecimal c) rest).map (c :: ·)

def settingInteger? (text : List Char) : Option Int :=
  let (negative, body) := takeSign (trimMargins text)
  match dropUnderscores? false body with
  | some digits =>
      if digits ≠ [] && digits.all Text.isDecimal then boundedValue? negative digits else none
  | none => none

def settingFloat? (text : List Char) : Option Binary64 :=
  let body := trimMargins text
  let (negative, unsigned) := takeSign body
  let word := unsigned.map Char.toLower
  if word = "inf".toList || word = "infinity".toList then some (.infinite negative)
  else if word = "nan".toList then some .nan
  else
    match dropUnderscores? false body with
    | some plain =>
        match takeDecimal? plain with
        | some (number, []) => some number.value
        | _ => none
    | none => none

def natText (n : Nat) : List Char :=
  Nat.toDigits 10 n

def intText (i : Int) : List Char :=
  if i < 0 then '-' :: natText i.natAbs else natText i.natAbs

structure Style where
  fixedFrom : Int
  fixedBelow : Int
  exponentDigits : Nat

def style : Style := ⟨-4, 16, 2⟩

def positional (digits : List Char) (places : Int) : List Char :=
  if places ≤ 0 then
    '0' :: '.' :: List.replicate (-places).toNat '0' ++ digits
  else if (digits.length : Int) ≤ places then
    digits ++ List.replicate (places.toNat - digits.length) '0' ++ ['.', '0']
  else digits.take places.toNat ++ '.' :: digits.drop places.toNat

def scientific (digits : List Char) (exponent : Int) : List Char :=
  let size := natText exponent.natAbs
  let padded := List.replicate (style.exponentDigits - size.length) '0' ++ size
  let mantissa :=
    match digits with
    | first :: second :: rest => first :: '.' :: second :: rest
    | single => single
  mantissa ++ 'e' :: (if exponent < 0 then '-' else '+') :: padded

def stripZeros (digits : List Char) : List Char :=
  Text.dropTrailing (· == '0') digits

def floatText : Binary64 → List Char
  | .nan => "nan".toList
  | .infinite negative => if negative then "-inf".toList else "inf".toList
  | .finite negative mantissa exponent =>
      let size :=
        if mantissa = 0 then "0.0".toList
        else
          let (value, last) := Binary64.shortest mantissa exponent
          let all := natText value
          let first : Int := last + (all.length : Int) - 1
          let digits := stripZeros all
          if style.fixedFrom ≤ first && first < style.fixedBelow then positional digits (first + 1)
          else scientific digits first
      if negative then '-' :: size else size

def ofFloatText? (text : String) : Option Binary64 :=
  settingFloat? text.toList

end PipelineLint.Numeral
