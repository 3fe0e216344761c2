set_option autoImplicit false

namespace PipelineLint.Expression

inductive Region where
  | code
  | literal
  | tripleLiteral
  | comment
deriving DecidableEq

def maskFrom : Region → List Char → List Char
  | _, [] => []
  | .code, '"' :: '"' :: '"' :: rest => '"' :: '"' :: '"' :: maskFrom .tripleLiteral rest
  | .code, c :: rest =>
      if c = '"' then '"' :: maskFrom .literal rest
      else if c = '#' then ' ' :: maskFrom .comment rest
      else c :: maskFrom .code rest
  | .literal, ['\\'] => [' ']
  | .literal, '\\' :: _ :: rest => ' ' :: ' ' :: maskFrom .literal rest
  | .literal, c :: rest =>
      if c = '"' || c = '\n' then c :: maskFrom .code rest else ' ' :: maskFrom .literal rest
  | .tripleLiteral, '"' :: '"' :: '"' :: rest => '"' :: '"' :: '"' :: maskFrom .code rest
  | .tripleLiteral, c :: rest =>
      (if c = '\n' then '\n' else ' ') :: maskFrom .tripleLiteral rest
  | .comment, c :: rest =>
      if c = '\n' then '\n' :: maskFrom .code rest else ' ' :: maskFrom .comment rest

/-- An expression without the contents of its literals and comments. -/
def mask (text : List Char) : List Char :=
  maskFrom .code text

theorem length_maskFrom (region : Region) (text : List Char) :
    (maskFrom region text).length = text.length := by
  fun_induction maskFrom region text <;> simp_all

end PipelineLint.Expression
