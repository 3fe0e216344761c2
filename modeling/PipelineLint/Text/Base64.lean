set_option autoImplicit false

namespace PipelineLint.Text.Base64

def letterValue? (c : Char) : Option Nat :=
  if 'A' ≤ c && c ≤ 'Z' then some (c.toNat - 65)
  else if 'a' ≤ c && c ≤ 'z' then some (c.toNat - 71)
  else if c.isDigit then some (c.toNat + 4)
  else if c = '+' then some 62
  else if c = '/' then some 63
  else none

-- The bytes of a text behind some letters of four, their values so far, of which there are fewer than four, and behind some
-- equals signs. Nothing if the last letters are not filled up.
def decodeFrom? (held : List Nat) (fillers : Nat) : List Char → Option (List UInt8)
  | [] => if held.isEmpty then some [] else none
  | '=' :: rest =>
      if held.length < 2 then decodeFrom? held fillers rest
      else if held.length + (fillers + 1) < 4 then decodeFrom? held (fillers + 1) rest
      else some []
  | c :: rest =>
      match letterValue? c with
      | none => decodeFrom? held fillers rest
      | some value =>
          match held with
          | [] => decodeFrom? [value] 0 rest
          | [a] =>
              (decodeFrom? [a, value] 0 rest).map (UInt8.ofNat (a * 4 + value / 16) :: ·)
          | [a, b] =>
              (decodeFrom? [a, b, value] 0 rest).map
                (UInt8.ofNat (b % 16 * 16 + value / 4) :: ·)
          | _ :: _ :: c :: _ =>
              (decodeFrom? [] 0 rest).map (UInt8.ofNat (c % 4 * 64 + value) :: ·)

def decode? (text : List Char) : Option (List UInt8) :=
  decodeFrom? [] 0 text

end PipelineLint.Text.Base64
