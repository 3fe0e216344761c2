import PipelineLint.Value.Basic
/-!
The order in which a set shows its numbers. Each goes to the first free slot of a table, where the
search starts at the residue of the number modulo a large prime, and the slots are shown in order.
-/

set_option autoImplicit false

namespace PipelineLint

namespace SetOrder

def modulus : Nat := 2305843009213693951

-- A residue with a sign as a word of 64 bits. Minus one is not used.
def word (negative : Bool) (residue : Nat) : Nat :=
  if negative then
    if residue = 0 then 0 else 18446744073709551616 - (if residue = 1 then 2 else residue)
  else residue

def place? : Scalar → Option Nat
  | .float (.infinite negative) => some (word negative 314159)
  | s =>
      s.number?.map fun (mantissa, exponent) =>
        word (mantissa < 0) (mantissa.natAbs * Nat.pow 2 (exponent % 61).toNat % modulus)

-- The number of slots for some elements: a power of two, at least eight, and for five elements or more above twice their
-- number.
def slots (count : Nat) : Nat :=
  if count < 5 then 8 else max 8 (Nat.pow 2 ((2 * count).log2 + 1))

-- The first free slot. From a slot the search goes over its next nine, if the table has as many, and then far away; the word
-- says where, until nothing is left of it.
def freeSlot (size : Nat) (taken : List Nat) : (tries : Nat) → (slot rest : Nat) → Nat
  | 0, slot, _ => slot
  | tries + 1, slot, rest =>
      let near := if slot + 9 < size then (List.range 10).map (slot + ·) else [slot]
      match near.find? fun s => !taken.contains s with
      | some free => free
      | none => freeSlot size taken tries ((slot * 5 + 1 + rest / 32) % size) (rest / 32)

def fill (size : Nat) (placed : List (Nat × Scalar)) : List (Nat × Scalar) → List (Nat × Scalar)
  | [] => placed
  | (place, s) :: rest =>
      let slot := freeSlot size (placed.map Prod.fst) (size + 16) (place % size) place
      fill size ((slot, s) :: placed) rest

end SetOrder

-- The different elements of a set in the order in which it shows them, if all are numbers; others stay in the order in which
-- they were given.
def setOrder (elements : List Scalar) : List Scalar :=
  match elements.mapM fun s => (SetOrder.place? s).map fun place => (place, s) with
  | some places =>
      let size := SetOrder.slots elements.length
      let placed := SetOrder.fill size [] places
      (List.range size).filterMap fun slot => placed.lookup slot
  | none => elements

end PipelineLint
