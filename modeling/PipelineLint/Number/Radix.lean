import PipelineLint.Number.Numeral

set_option autoImplicit false

namespace PipelineLint.Numeral

def radixDigit? (c : Char) : Option Nat :=
  if 'a' ≤ c && c ≤ 'f' then some (c.toNat - 87)
  else if 'A' ≤ c && c ≤ 'F' then some (c.toNat - 55)
  else Text.digitValue? c

def radixDigits? (base : Nat) : (before : Option Nat) → List Char → Option Nat
  | before, [] => before
  | some value, '_' :: c :: rest =>
      match (radixDigit? c).filter (· < base) with
      | some digit => radixDigits? base (some (value * base + digit)) rest
      | none => none
  | before, c :: rest =>
      match (radixDigit? c).filter (· < base) with
      | some digit => radixDigits? base (some (before.getD 0 * base + digit)) rest
      | none => none

def radixMark? (base : Nat) : Option Char :=
  [(2, 'b'), (8, 'o'), (16, 'x')].lookup base

def behindRadixMark (base : Nat) : List Char → List Char
  | zero :: mark :: rest =>
      if Text.digitValue? zero = some 0 && radixMark? base = some mark.toLower then
        match rest with
        | '_' :: digits => digits
        | digits => digits
      else zero :: mark :: rest
  | text => text

-- The sign and the size of an integer in a base that has a mark.
def radixInteger? (base : Nat) (text : List Char) : Option (Bool × Nat) :=
  let (negative, body) := takeSign (trimMargins text)
  (radixDigits? base none (behindRadixMark base body)).map (negative, ·)

end PipelineLint.Numeral
