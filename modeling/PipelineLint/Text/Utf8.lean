import PipelineLint.Text.Quoted

set_option autoImplicit false

namespace PipelineLint.Text.Utf8

abbrev Bytes := List UInt8

def encode (text : List Char) : Bytes :=
  text.flatMap String.utf8EncodeChar

inductive Flaw where
  | start
  | continuation
  | cutOff
deriving DecidableEq

structure Malformed where
  position : Nat
  bytes : Bytes
  flaw : Flaw
deriving DecidableEq

def Flaw.reason : Flaw → String
  | .start => "invalid start byte"
  | .continuation => "invalid continuation byte"
  | .cutOff => "unexpected end of data"

def Malformed.message (malformed : Malformed) : String :=
  let place :=
    match malformed.bytes with
    | [byte] =>
        "byte 0x" ++ String.ofList (hexDigits 2 byte.toNat) ++ " in position " ++
          toString malformed.position
    | bytes =>
        "bytes in position " ++ toString malformed.position ++ "-" ++
          toString (malformed.position + bytes.length - 1)
  "'utf-8' codec can't decode " ++ place ++ ": " ++ malformed.flaw.reason

def isTail (byte : UInt8) : Bool :=
  0x80 ≤ byte && byte < 0xC0

-- Whether a byte may be the second one of a character, or of a surrogate where these pass.
def isSecond (passing : Bool) (first second : UInt8) : Bool :=
  isTail second &&
    if first = 0xE0 then 0xA0 ≤ second
    else if first = 0xED then passing || second < 0xA0
    else if first = 0xF0 then 0x90 ≤ second
    else if first = 0xF4 then second < 0x90
    else true

def tailCount? (first : UInt8) : Option Nat :=
  if first < 0x80 then some 0
  else if first < 0xC2 then none
  else if first < 0xE0 then some 1
  else if first < 0xF0 then some 2
  else if first < 0xF5 then some 3
  else none

def takeTails (passing : Bool) (first : UInt8) (count : Nat) (rest : Bytes) : Bytes :=
  match rest.take count with
  | [] => []
  | second :: more => if isSecond passing first second then second :: more.takeWhile isTail else []

def codePoint (first : UInt8) (tails : Bytes) : Nat :=
  let lead :=
    match tails.length with
    | 0 => first.toNat
    | 1 => first.toNat % 32
    | 2 => first.toNat % 16
    | _ => first.toNat % 8
  tails.foldl (fun code byte => code * 64 + byte.toNat % 64) lead

def front (passing : Bool) (first : UInt8) (rest : Bytes) : (Char ⊕ Flaw) × Nat :=
  match tailCount? first with
  | none => (.inr .start, 0)
  | some count =>
      let tails := takeTails passing first count rest
      if tails.length = count then (.inl (charOfCode (codePoint first tails)), count)
      else if tails.length = rest.length then (.inr .cutOff, tails.length)
      else (.inr .continuation, tails.length)

def decodeFrom (passing : Bool) (position : Nat) (bytes : Bytes) : Except Malformed (List Char) :=
  match bytes with
  | [] => .ok []
  | first :: rest =>
      match front passing first rest with
      | (.inr flaw, tails) => .error ⟨position, first :: rest.take tails, flaw⟩
      | (.inl c, tails) =>
          match decodeFrom passing (position + 1 + tails) (rest.drop tails) with
          | .ok text => .ok (c :: text)
          | .error malformed => .error malformed
termination_by bytes.length
decreasing_by
  simp only [List.length_drop, List.length_cons]
  omega

def decode (bytes : Bytes) : Except Malformed (List Char) :=
  decodeFrom false 0 bytes

def replacement : Char := Char.ofNat 0xFFFD

def decodeLossy (bytes : Bytes) : List Char :=
  match bytes with
  | [] => []
  | first :: rest =>
      match front false first rest with
      | (.inr _, tails) => replacement :: decodeLossy (rest.drop tails)
      | (.inl c, tails) => c :: decodeLossy (rest.drop tails)
termination_by bytes.length
decreasing_by
  all_goals
    simp only [List.length_drop, List.length_cons]
    omega

end PipelineLint.Text.Utf8
