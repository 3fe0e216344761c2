import PipelineLint.CommandLine.Markup
import PipelineLint.CommandLine.Wrap
import PipelineLint.Text.Lines

set_option autoImplicit false

namespace PipelineLint.Screen

def isControl (c : Char) : Bool :=
  let code := c.toNat
  code = 7 || code = 8 || (11 ≤ code && code ≤ 13)

def tabWidth : Nat := 8

def alignTabs : (column : Nat) → List Char → List Char
  | _, [] => []
  | column, c :: rest =>
      if c = '\t' then
        let step := tabWidth - column % tabWidth
        List.replicate step ' ' ++ alignTabs (column + step) rest
      else c :: alignTabs (column + Text.cellWidth c) rest

def width : Nat := 4000

def layout (text : List Char) : List Char :=
  Text.joinFeeds ((Text.splitFeeds text).flatMap fun line => Wrap.lines width (alignTabs 0 line))

def line (markup : String) : Except Markup.Fault String :=
  (Markup.render markup).map fun text =>
    String.ofList (layout (text.filter fun c => !isControl c) ++ ['\n'])

def escapeChar : Char := Char.ofNat 27

def behindCode? : List Char → Option (List Char)
  | '[' :: rest =>
      match rest.dropWhile fun c => c.isDigit || c = ';' || c = '?' with
      | letter :: behind => if letter.isAlpha then some behind else none
      | [] => none
  | _ => none

theorem length_of_behindCode? {text behind : List Char} (code : behindCode? text = some behind) :
    behind.length < text.length := by
  unfold behindCode? at code
  split at code
  · rename_i rest
    have shorter := (List.dropWhile_suffix (l := rest) fun c =>
      c.isDigit || c = ';' || c = '?').length_le
    split at code
    · rename_i letter tail dropped
      rw [dropped] at shorter
      split at code
      · simp only [Option.some.injEq] at code
        subst code
        simp only [List.length_cons] at shorter ⊢
        omega
      · simp at code
    · simp at code
  · simp at code

def withoutCodes (text : List Char) : List Char :=
  match text with
  | [] => []
  | c :: rest =>
      match _ : behindCode? rest with
      | some behind => if c = escapeChar then withoutCodes behind else c :: withoutCodes rest
      | none => c :: withoutCodes rest
termination_by text.length
decreasing_by
  · have := length_of_behindCode? (by assumption)
    simp only [List.length_cons]
    omega
  · simp
  · simp

def text (text : String) : String :=
  String.ofList (withoutCodes text.toList ++ ['\n'])

end PipelineLint.Screen
