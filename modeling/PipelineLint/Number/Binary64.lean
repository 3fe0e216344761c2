set_option autoImplicit false

namespace PipelineLint

-- A double precision number; `finite n m e` stands for `m * 2 ^ e`, negated if `n`.
inductive Binary64 where
  | finite (negative : Bool) (mantissa : Nat) (exponent : Int)
  | infinite (negative : Bool)
  | nan
deriving DecidableEq, Inhabited

namespace Binary64

def leastExponent : Int := -1074

def greatestExponent : Int := 971

-- A quotient rounded to the nearest whole number, a half to the even one.
def roundHalfEven (numerator denominator : Nat) : Nat :=
  let quotient := numerator / denominator
  let remainder := numerator % denominator
  if 2 * remainder < denominator then quotient
  else if denominator < 2 * remainder then quotient + 1
  else quotient + quotient % 2

def scaled (numerator denominator : Nat) (exponent : Int) : Nat × Nat :=
  if 0 ≤ exponent then (numerator, denominator * Nat.pow 2 exponent.toNat)
  else (numerator * Nat.pow 2 (-exponent).toNat, denominator)

-- The number nearest to a positive quotient, of two the one with an even mantissa.
def ofQuotient (negative : Bool) (numerator denominator : Nat) : Binary64 :=
  if numerator = 0 then .finite negative 0 leastExponent
  else
    let guess : Int := max leastExponent ((numerator.log2 : Int) - (denominator.log2 : Int) - 53)
    let (n, d) := scaled numerator denominator guess
    let exponent := if Nat.pow 2 53 ≤ n / d then guess + 1 else guess
    let (n, d) := scaled numerator denominator exponent
    let mantissa := roundHalfEven n d
    let (mantissa, exponent) :=
      if mantissa = Nat.pow 2 53 then (Nat.pow 2 52, exponent + 1) else (mantissa, exponent)
    if greatestExponent < exponent then .infinite negative
    else .finite negative mantissa exponent

def decimalLength (n : Nat) : Nat :=
  (Nat.toDigits 10 n).length

def ofDecimal (negative : Bool) (digits : Nat) (exponent : Int) : Binary64 :=
  if digits = 0 then .finite negative 0 leastExponent
  else
    let magnitude : Int := exponent + decimalLength digits
    if 400 < magnitude then .infinite negative
    else if magnitude < -400 then .finite negative 0 leastExponent
    else if 0 ≤ exponent then ofQuotient negative (digits * Nat.pow 10 exponent.toNat) 1
    else ofQuotient negative digits (Nat.pow 10 (-exponent).toNat)

def ofInt? (i : Int) : Option Binary64 :=
  match ofDecimal (i < 0) i.natAbs 0 with
  | .finite negative mantissa exponent => some (.finite negative mantissa exponent)
  | _ => none

def ofParts (negative : Bool) (mantissa : Nat) (exponent : Int) : Binary64 :=
  if 0 ≤ exponent then ofQuotient negative (mantissa * Nat.pow 2 exponent.toNat) 1
  else ofQuotient negative mantissa (Nat.pow 2 (-exponent).toNat)

def neg : Binary64 → Binary64
  | .nan => .nan
  | .infinite negative => .infinite (!negative)
  | .finite negative mantissa exponent => .finite (!negative) mantissa exponent

-- The sum, rounded. A zero is negative only if both numbers are.
def add : Binary64 → Binary64 → Binary64
  | .nan, _ => .nan
  | _, .nan => .nan
  | .infinite a, .infinite b => if a = b then .infinite a else .nan
  | .infinite a, _ => .infinite a
  | _, .infinite b => .infinite b
  | .finite a m e, .finite b n f =>
      let least := min e f
      let left : Int := m * Nat.pow 2 (e - least).toNat
      let right : Int := n * Nat.pow 2 (f - least).toNat
      let total := (if a then -left else left) + (if b then -right else right)
      if total = 0 then .finite (a && b) 0 leastExponent
      else ofParts (total < 0) total.natAbs least

def mul : Binary64 → Binary64 → Binary64
  | .nan, _ => .nan
  | _, .nan => .nan
  | .infinite a, .infinite b => .infinite (a != b)
  | .infinite a, .finite b n _ => if n = 0 then .nan else .infinite (a != b)
  | .finite a m _, .infinite b => if m = 0 then .nan else .infinite (a != b)
  | .finite a m e, .finite b n f => ofParts (a != b) (m * n) (e + f)

def isPositiveOrNan : Binary64 → Bool
  | .finite negative mantissa _ => !negative && mantissa != 0
  | .infinite negative => !negative
  | .nan => true

def isZero : Binary64 → Bool
  | .finite _ mantissa _ => mantissa == 0
  | _ => false

def parts? : Binary64 → Option (Int × Int)
  | .finite negative mantissa exponent =>
      some (if negative then -(mantissa : Int) else (mantissa : Int), exponent)
  | _ => none

end Binary64

end PipelineLint
