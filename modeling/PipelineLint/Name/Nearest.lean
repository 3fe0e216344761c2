import PipelineLint.Name.Distance
import PipelineLint.Text.Case
import PipelineLint.Text.Blank

set_option autoImplicit false

namespace PipelineLint.Name

def distinct {α : Type} [BEq α] : List α → List α
  | [] => []
  | x :: rest => x :: (distinct rest).filter (· != x)

-- At most `limit` elements from the front; a negative limit drops as many from the end.
def limited {α : Type} (limit : Int) (xs : List α) : List α :=
  if 0 ≤ limit then xs.take limit.toNat else xs.take (xs.length - (-limit).toNat)

def leastShared : Nat := 3

abbrev Aliases := List (String × List String)

-- The targets of an alias, looked up as written and then in small letters.
def aliasTargets (aliases : Aliases) (name : String) : List String :=
  match aliases.lookup name with
  | some targets => targets
  | none => (aliases.lookup (lowered name)).getD []

def isContained (name candidate : String) : Bool :=
  let small := Text.lower name.toList
  let other := Text.lower candidate.toList
  (leastShared ≤ small.length && Text.occursIn small other) ||
    (leastShared ≤ candidate.toList.length && Text.occursIn other small)

def sharesBeginning (name candidate : String) : Bool :=
  let small := Text.lower name.toList
  leastShared ≤ small.length &&
    (small.take leastShared).isPrefixOf (Text.lower candidate.toList)

def byDistance (name : String) (pool : List String) : List String :=
  let most : Int := closeness name
  let small := Text.lower name.toList
  let scored := pool.filterMap fun candidate =>
    let d := distance (some most) small (Text.lower candidate.toList)
    if d ≤ most then some (d, candidate) else none
  (scored.mergeSort fun a b => decide (a.1 ≤ b.1)).map Prod.snd

def firstNonempty : List (List String) → List String
  | [] => []
  | xs :: rest => if xs.isEmpty then firstNonempty rest else xs

/-- Up to `limit` candidates that a name most plausibly meant. -/
def nearest (name : String) (candidates : List String) (aliases : Aliases := [])
    (useDistance : Bool := false) (limit : Int := 3) : List String :=
  let pool := distinct candidates
  if name = "" || pool.isEmpty then []
  else
    limited limit (firstNonempty [
      (aliasTargets aliases name).filter pool.contains,
      pool.filter (isContained name),
      pool.filter (sharesBeginning name),
      if useDistance then byDistance name pool else []])

-- Whether a word starts at `c`: a capital behind a small letter or a digit, or the last capital of a run in front of a small
-- letter.
def startsWord (before c : Char) (next : Option Char) : Bool :=
  c.isUpper && (before.isLower || before.isDigit || (before.isUpper && next.any Char.isLower))

def separateWords : (before : Char) → List Char → List Char
  | _, [] => []
  | before, c :: rest =>
      if startsWord before c rest.head? then '_' :: c :: separateWords c rest
      else c :: separateWords c rest

def snakeCase (name : String) : String :=
  match name.toList with
  | [] => ""
  | c :: rest => String.ofList (Text.lower (c :: separateWords c rest))

end PipelineLint.Name
