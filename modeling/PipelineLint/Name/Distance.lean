set_option autoImplicit false

namespace PipelineLint.Name

-- The cells of a row behind its first one. `left` is the cell in front, `corner` the one above it, and `above` the rest of
-- the row above.
def rowAfter (c : Char) : (left corner : Nat) → (above : List Nat) → List Char → List Nat
  | left, corner, up :: above, d :: other =>
      let cell := min (min (up + 1) (left + 1)) (corner + if c = d then 0 else 1)
      cell :: rowAfter c cell up above other
  | _, _, _, _ => []

def nextRow (c : Char) (row : List Nat) (other : List Char) : List Nat :=
  match row with
  | [] => []
  | first :: above => (first + 1) :: rowAfter c (first + 1) first above other

def rowWithin (bound : Option Int) (row : List Nat) : Bool :=
  match bound with
  | none => true
  | some most => row.any fun cell => (cell : Int) ≤ most

def lastRow? (bound : Option Int) (other : List Char) : (row : List Nat) → List Char →
    Option (List Nat)
  | row, [] => some row
  | row, c :: rest =>
      let row := nextRow c row other
      if rowWithin bound row then lastRow? bound other row rest else none

-- The edit distance of two texts of which the first is not the shorter one; one more than the bound if it is found to be
-- above the bound.
def distanceFrom (bound : Option Int) (long short : List Char) : Int :=
  let above : Int := bound.getD 0 + 1
  if bound.any fun most => most < (long.length : Int) - (short.length : Int) then above
  else
    match lastRow? bound short (List.range (short.length + 1)) long with
    | some row => ((row.getLast?.getD 0 : Nat) : Int)
    | none => above

/-- The least number of insertions, deletions and substitutions of single characters that turn one
text into the other. With a bound, a greater distance may be reported as one more than the bound. -/
def distance (bound : Option Int) (a b : List Char) : Int :=
  if a = b then 0
  else if a.length < b.length then distanceFrom bound b a
  else distanceFrom bound a b

def closeness (name : String) : Nat :=
  max 2 (name.toList.length / 3)

end PipelineLint.Name
