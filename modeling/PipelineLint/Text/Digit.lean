set_option autoImplicit false

namespace PipelineLint.Text

def digitZeros : List Nat := [
  48, 1632, 1776, 1984, 2406, 2534, 2662, 2790, 2918, 3046,
  3174, 3302, 3430, 3558, 3664, 3792, 3872, 4160, 4240, 6112,
  6160, 6470, 6608, 6784, 6800, 6992, 7088, 7232, 7248, 42528,
  43216, 43264, 43472, 43504, 43600, 44016, 65296, 66720, 68912, 69734,
  69872, 69942, 70096, 70384, 70736, 70864, 71248, 71360, 71472, 71904,
  72016, 72784, 73040, 73120, 92768, 92864, 93008, 120782, 120792, 120802,
  120812, 120822, 123200, 123632, 125264, 130032
]

def digitValue? (c : Char) : Option Nat :=
  if c.toNat < 128 then
    if c.isDigit then some (c.toNat - 48) else none
  else
    (digitZeros.find? fun base => base ≤ c.toNat && c.toNat < base + 10).map (c.toNat - ·)

def isDecimal (c : Char) : Bool :=
  (digitValue? c).isSome

def digitsValue (digits : List Char) : Nat :=
  digits.foldl (fun value c => value * 10 + (digitValue? c).getD 0) 0

def hexValue? (c : Char) : Option Nat :=
  if c.isDigit then some (c.toNat - 48)
  else if 'a' ≤ c && c ≤ 'f' then some (c.toNat - 87)
  else if 'A' ≤ c && c ≤ 'F' then some (c.toNat - 55)
  else none

def hexNumber? (digits : List Char) : Option Nat :=
  digits.foldlM (fun value c => (hexValue? c).map (value * 16 + ·)) 0

end PipelineLint.Text
