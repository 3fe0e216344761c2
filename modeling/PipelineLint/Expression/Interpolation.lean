set_option autoImplicit false

namespace PipelineLint.Expression

structure Interpolation where
  start : Nat
  body : List Char
deriving DecidableEq

def Interpolation.stop (span : Interpolation) : Nat :=
  span.start + span.body.length

-- The body of an interpolation up to the brace that closes it, and the text behind that brace. `depth` counts the open braces
-- beyond the one of the interpolation.
def takeExpression? : (depth : Nat) → (inString : Bool) → List Char →
    Option (List Char × List Char)
  | _, _, [] => none
  | depth, true, '\\' :: c :: rest =>
      (takeExpression? depth true rest).map fun (body, after) => ('\\' :: c :: body, after)
  | depth, true, c :: rest =>
      (takeExpression? depth (c ≠ '"') rest).map fun (body, after) => (c :: body, after)
  | depth, false, c :: rest =>
      if c = '\x7d' then
        match depth with
        | 0 => some ([], rest)
        | depth + 1 => (takeExpression? depth false rest).map fun (body, after) => (c :: body, after)
      else
        (takeExpression? (if c = '\x7b' then depth + 1 else depth) (c = '"') rest).map
          fun (body, after) => (c :: body, after)

theorem length_takeExpression? {depth : Nat} {inString : Bool} {text body after : List Char}
    (taken : takeExpression? depth inString text = some (body, after)) :
    text.length = body.length + 1 + after.length := by
  fun_induction takeExpression? depth inString text generalizing body after <;>
    simp_all <;> grind

def interpolationsFrom (offset : Nat) (text : List Char) : List Interpolation :=
  match text with
  | '$' :: '\x7b' :: '!' :: rest =>
      match taken : takeExpression? 0 false rest with
      | some (body, after) =>
          ⟨offset + 3, body⟩ :: interpolationsFrom (offset + 3 + body.length + 1) after
      | none => []
  | _ :: rest => interpolationsFrom (offset + 1) rest
  | [] => []
termination_by text.length
decreasing_by
  · have := length_takeExpression? taken
    simp
    omega
  · simp

def interpolations (text : List Char) : List Interpolation :=
  interpolationsFrom 0 text

def opener : List Char := ['$', '\x7b', '!']

end PipelineLint.Expression
