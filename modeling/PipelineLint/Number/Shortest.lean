import PipelineLint.Number.Binary64

set_option autoImplicit false

namespace PipelineLint.Binary64

def ratioLt (a b : Nat × Nat) : Bool :=
  a.1 * b.2 < b.1 * a.2

def ratioLe (a b : Nat × Nat) : Bool :=
  a.1 * b.2 ≤ b.1 * a.2

def powerOf (base : Nat) (factor : Nat) (exponent : Int) : Nat × Nat :=
  if 0 ≤ exponent then (factor * Nat.pow base exponent.toNat, 1)
  else (factor, Nat.pow base (-exponent).toNat)

def leadingExponent (value : Nat × Nat) : Int :=
  let guess : Int := (decimalLength (value.1 / value.2 + 1) : Int)
  let coarse : Int :=
    if value.2 ≤ value.1 then guess else 1 - (decimalLength (value.2 / value.1) : Int)
  if ratioLt value (powerOf 10 1 coarse) then
    if ratioLt value (powerOf 10 1 (coarse - 1)) then coarse - 2 else coarse - 1
  else coarse

-- The half-open or closed interval of the quotients that round to a number, around its value.
structure Neighbourhood where
  low : Nat × Nat
  value : Nat × Nat
  high : Nat × Nat
  closed : Bool

-- The neighbourhood of a positive finite number. Below a power of two the numbers are denser.
def Neighbourhood.of (mantissa : Nat) (exponent : Int) : Neighbourhood :=
  let narrow := mantissa = Nat.pow 2 52 && leastExponent < exponent
  { low := if narrow then powerOf 2 (4 * mantissa - 1) (exponent - 2)
           else powerOf 2 (2 * mantissa - 1) (exponent - 1)
    value := powerOf 2 mantissa exponent
    high := powerOf 2 (2 * mantissa + 1) (exponent - 1)
    closed := mantissa % 2 == 0 }

def Neighbourhood.contains (near : Neighbourhood) (x : Nat × Nat) : Bool :=
  if near.closed then ratioLe near.low x && ratioLe x near.high
  else ratioLt near.low x && ratioLt x near.high

-- The point of the grid `10 ^ exponent` that reads back and is nearest to the value, if any.
def Neighbourhood.onGrid? (near : Neighbourhood) (exponent : Int) : Option Nat :=
  let unit := powerOf 10 1 exponent
  let numerator := near.value.1 * unit.2
  let denominator := near.value.2 * unit.1
  let below := numerator / denominator
  let twice := 2 * (numerator % denominator)
  let nearest :=
    if twice < denominator then below
    else if denominator < twice then below + 1
    else below + below % 2
  let other := if nearest = below then below + 1 else below
  if 0 < nearest && near.contains (powerOf 10 nearest exponent) then some nearest
  else if 0 < other && near.contains (powerOf 10 other exponent) then some other
  else none

def Neighbourhood.search (near : Neighbourhood) : (tries : Nat) → (exponent : Int) → Nat × Int
  | 0, exponent => ((near.onGrid? exponent).getD 0, exponent)
  | tries + 1, exponent =>
      match near.onGrid? exponent with
      | some digits => (digits, exponent)
      | none => near.search tries (exponent - 1)

def shortest (mantissa : Nat) (exponent : Int) : Nat × Int :=
  let near := Neighbourhood.of mantissa exponent
  near.search 17 (leadingExponent near.value)

end PipelineLint.Binary64
