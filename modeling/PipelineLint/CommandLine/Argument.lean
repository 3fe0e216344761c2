import PipelineLint.Number.Numeral
import PipelineLint.Text.Word

set_option autoImplicit false

namespace PipelineLint.Argument

def skipGaps (text : List Char) : List Char :=
  text.dropWhile fun c => c = ' ' || c = '\t' || c = '\n' || c = Char.ofNat 12

-- Whether a text is an integer or a decimal number, without a sign. Zeros in front count as no number, unless all digits are
-- zeros.
def isNumber (text : List Char) : Bool :=
  let whole := text.takeWhile Char.isDigit
  text.all (fun c => c.isAlphanum || c = '.' || c = '-' || c = '+' || c = '_') &&
    (Numeral.settingFloat? text).isSome && !text.head?.any Char.isAlpha &&
    (whole.length ≠ text.length || whole.length ≤ 1 || whole.head? ≠ some '0' ||
      whole.all (· = '0'))

def takeWord : List Char → List Char
  | 'e' :: '-' :: rest => 'e' :: '-' :: takeWord rest
  | 'e' :: '+' :: rest => 'e' :: '+' :: takeWord rest
  | c :: rest => if c = '.' || Text.isWord c then c :: takeWord rest else []
  | [] => []

def behindQuote? (quote : Char) : List Char → Option (List Char)
  | [] => none
  | '\\' :: _ :: rest => behindQuote? quote rest
  | c :: rest => if c = quote then some rest else if c = '\n' then none else behindQuote? quote rest

def constants : List String := ["True", "False", "None", "..."]

mutual

def behindValue? : (limit : Nat) → List Char → Option (List Char)
  | 0, _ => none
  | limit + 1, text =>
      match skipGaps text with
      | '(' :: rest => behindValues? limit true rest
      | '\'' :: rest => behindQuote? '\'' rest
      | '"' :: rest => behindQuote? '"' rest
      | c :: rest =>
          let signed := c = '-' || c = '+'
          let body := if signed then skipGaps rest else c :: rest
          let word := takeWord body
          if isNumber word || (!signed && constants.contains (String.ofList word)) then
            some (body.drop word.length)
          else none
      | [] => none

def behindValues? : (limit : Nat) → (inside : Bool) → List Char → Option (List Char)
  | 0, _, _ => none
  | limit + 1, inside, text =>
      match skipGaps text, inside with
      | ')' :: rest, true => some rest
      | text, _ =>
          match (behindValue? limit text).map skipGaps with
          | some (')' :: rest) => if inside then some rest else none
          | some (',' :: rest) =>
              if !inside && (skipGaps rest).isEmpty then some []
              else behindValues? limit inside rest
          | some [] => if inside then none else some []
          | _ => none

end

def isValues (text : List Char) : Bool :=
  behindValues? (2 * text.length + 2) false text = some []

def isAction (text : List Char) : Bool :=
  let name := text.takeWhile fun c => c = '.' || Text.isWord c
  let behind := text.drop name.length
  behind.isEmpty ||
    isValues (if behind.head? = some '(' && behind.getLast? = some ')' then behind else text)

end PipelineLint.Argument
