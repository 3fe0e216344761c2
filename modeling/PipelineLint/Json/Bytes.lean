import PipelineLint.Json.Reader
import PipelineLint.Text.Utf8

set_option autoImplicit false

namespace PipelineLint.Json

open Text.Utf8 (Bytes)

inductive Encoding where
  | utf8
  | utf16 (bigEndian : Bool)
  | utf32 (bigEndian : Bool)
deriving DecidableEq

def markedEncoding? : Bytes → Option (Encoding × Bytes)
  | 0x00 :: 0x00 :: 0xFE :: 0xFF :: rest => some (.utf32 true, rest)
  | 0xFF :: 0xFE :: 0x00 :: 0x00 :: rest => some (.utf32 false, rest)
  | 0xFE :: 0xFF :: rest => some (.utf16 true, rest)
  | 0xFF :: 0xFE :: rest => some (.utf16 false, rest)
  | 0xEF :: 0xBB :: 0xBF :: rest => some (.utf8, rest)
  | _ => none

def unmarkedEncoding : Bytes → Encoding
  | [0, _] => .utf16 true
  | [_, 0] => .utf16 false
  | a :: b :: c :: d :: _ =>
      if a = 0 then (if b = 0 then .utf32 true else .utf16 true)
      else if b = 0 then (if c = 0 && d = 0 then .utf32 false else .utf16 false)
      else .utf8
  | _ => .utf8

def units16? (bigEndian : Bool) : Bytes → Option (List Nat)
  | [] => some []
  | [_] => none
  | a :: b :: rest =>
      let unit := if bigEndian then a.toNat * 256 + b.toNat else b.toNat * 256 + a.toNat
      (units16? bigEndian rest).map (unit :: ·)

def chars32? (bigEndian : Bool) : Bytes → Option (List Char)
  | [] => some []
  | a :: b :: c :: d :: rest =>
      let digits := if bigEndian then [a, b, c, d] else [d, c, b, a]
      let code := digits.foldl (fun code byte => code * 256 + byte.toNat) 0
      if code < 0x110000 then (chars32? bigEndian rest).map (Text.charOfCode code :: ·) else none
  | _ => none

-- The text of bytes in an encoding. Surrogates may be in it, each as it stands.
def Encoding.decode? : Encoding → Bytes → Option (List Char)
  | .utf8, bytes => (Text.Utf8.decodeFrom true 0 bytes).toOption
  | .utf16 bigEndian, bytes => (units16? bigEndian bytes).map joinUnits
  | .utf32 bigEndian, bytes => chars32? bigEndian bytes

def textOf? (bytes : Bytes) : Option (List Char) :=
  let (encoding, body) := (markedEncoding? bytes).getD (unmarkedEncoding bytes, bytes)
  encoding.decode? body

def readBytes (levels : Levels) (bytes : Bytes) : Except Fault Value :=
  match textOf? bytes with
  | some text => read levels text
  | none => .error .malformed

end PipelineLint.Json
