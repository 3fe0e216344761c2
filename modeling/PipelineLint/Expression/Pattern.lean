import PipelineLint.Text.Blank
import PipelineLint.Text.Word

set_option autoImplicit false

namespace PipelineLint.Expression

inductive Pattern where
  | one (test : Char → Bool)
  | many (test : Char → Bool)
  | edge (test : (before next : Option Char) → Bool)
  | nothing
  | seq (first second : Pattern)
  | either (first second : Pattern)

namespace Pattern

def acceptsMany (test : Char → Bool) (accept : Option Char → List Char → Bool) :
    (before : Option Char) → List Char → Bool
  | before, [] => accept before []
  | before, c :: rest =>
      accept before (c :: rest) || (test c && acceptsMany test accept (some c) rest)

-- Whether some match of a pattern at the start of a text leads to a position that is accepted.
def accepts : Pattern → (accept : Option Char → List Char → Bool) → (before : Option Char) →
    List Char → Bool
  | .one test, accept, _, c :: rest => test c && accept (some c) rest
  | .one _, _, _, [] => false
  | .many test, accept, before, text => acceptsMany test accept before text
  | .edge test, accept, before, text => test before text.head? && accept before text
  | .nothing, accept, before, text => accept before text
  | .seq first second, accept, before, text =>
      first.accepts (second.accepts accept) before text
  | .either first second, accept, before, text =>
      first.accepts accept before text || second.accepts accept before text

def occursAfter (pattern : Pattern) : (before : Option Char) → List Char → Bool
  | before, [] => pattern.accepts (fun _ _ => true) before []
  | before, c :: rest =>
      pattern.accepts (fun _ _ => true) before (c :: rest) || pattern.occursAfter (some c) rest

def occurs (pattern : Pattern) (text : List Char) : Bool :=
  pattern.occursAfter none text

def sequence : List Pattern → Pattern
  | [] => .nothing
  | [p] => p
  | p :: rest => .seq p (sequence rest)

def choice : List Pattern → Pattern
  | [] => .one fun _ => false
  | [p] => p
  | p :: rest => .either p (choice rest)

def exactly (text : String) : Pattern :=
  sequence (text.toList.map fun c => .one (· = c))

def optional (p : Pattern) : Pattern :=
  .either p .nothing

def atLeastOne (test : Char → Bool) : Pattern :=
  .seq (.one test) (.many test)

def blanks : Pattern := .many Text.isBlank

def someBlanks : Pattern := atLeastOne Text.isBlank

def word : Pattern := atLeastOne Text.isWord

def neighbour (test : Char → Bool) (c : Option Char) : Bool :=
  c.any test

def wordEdge : Pattern :=
  .edge fun before next => neighbour Text.isWord before != neighbour Text.isWord next

def freshName : Pattern :=
  .edge fun before _ => !neighbour (fun c => Text.isWord c || c = '.') before

def lineStart : Pattern :=
  .edge fun before _ => before.all (· = '\n')

def lineEnd : Pattern :=
  .edge fun _ next => next.all (· = '\n')

def notAfter (test : Char → Bool) : Pattern :=
  .edge fun before _ => !neighbour test before

def notBefore (test : Char → Bool) : Pattern :=
  .edge fun _ next => !neighbour test next

end Pattern

end PipelineLint.Expression
