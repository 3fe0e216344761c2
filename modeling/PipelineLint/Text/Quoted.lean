import PipelineLint.Text.Printable

set_option autoImplicit false

namespace PipelineLint.Text

def isSurrogate (code : Nat) : Bool :=
  0xD800 ≤ code && code < 0xE000

def firstStandIn : Nat := 0x10F800

-- The character of a code point. Each surrogate has a stand-in of its own, so that different code points stay different.
def charOfCode (code : Nat) : Char :=
  Char.ofNat (if isSurrogate code then code - 0xD800 + firstStandIn else code)

def codeOf (c : Char) : Nat :=
  if firstStandIn ≤ c.toNat then c.toNat - firstStandIn + 0xD800 else c.toNat

def hexDigit (n : Nat) : Char :=
  if n < 10 then Char.ofNat (48 + n) else Char.ofNat (87 + n)

def hexDigits : (width : Nat) → Nat → List Char
  | 0, _ => []
  | width + 1, n => hexDigits width (n / 16) ++ [hexDigit (n % 16)]

def quoteFor (text : List Char) : Char :=
  if text.contains '\'' && !text.contains '"' then '"' else '\''

def escapeChar (quote c : Char) : List Char :=
  if c = quote || c = '\\' then ['\\', c]
  else if c = '\n' then ['\\', 'n']
  else if c = '\r' then ['\\', 'r']
  else if c = '\t' then ['\\', 't']
  else if isPrintable c then [c]
  else if codeOf c < 256 then '\\' :: 'x' :: hexDigits 2 (codeOf c)
  else if codeOf c < 65536 then '\\' :: 'u' :: hexDigits 4 (codeOf c)
  else '\\' :: 'U' :: hexDigits 8 (codeOf c)

def quoted (text : List Char) : List Char :=
  let quote := quoteFor text
  quote :: text.flatMap (escapeChar quote) ++ [quote]

def escapeByte (quote : Char) (byte : UInt8) : List Char :=
  if byte.toNat < 127 then escapeChar quote (Char.ofNat byte.toNat)
  else '\\' :: 'x' :: hexDigits 2 byte.toNat

-- Bytes as messages show them: like a text of ASCII characters behind a letter.
def quotedBytes (bytes : List UInt8) : List Char :=
  let quote := quoteFor (bytes.map fun byte => Char.ofNat byte.toNat)
  'b' :: quote :: bytes.flatMap (escapeByte quote) ++ [quote]

end PipelineLint.Text
