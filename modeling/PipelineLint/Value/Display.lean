import PipelineLint.Number.Numeral
import PipelineLint.Text.Quoted
import PipelineLint.Value.Basic

set_option autoImplicit false

namespace PipelineLint

def quotedText (text : String) : String :=
  String.ofList (Text.quoted text.toList)

def Scalar.literal : Scalar → String
  | .null => "None"
  | .bool true => "True"
  | .bool false => "False"
  | .int i => String.ofList (Numeral.intText i)
  | .float x => String.ofList (Numeral.floatText x)
  | .str s => quotedText s
  | .moment m => m.literal
  | .sealed literal _ => literal

def Scalar.display : Scalar → String
  | .str s => s
  | .moment m => m.display
  | other => other.literal

mutual

def Value.literal : Value → String
  | .scalar s => s.literal
  | .list items => "[" ++ ", ".intercalate (itemLiterals items) ++ "]"
  | .map entries => "\x7b" ++ ", ".intercalate (entryLiterals entries) ++ "\x7d"
termination_by structural value => value

def itemLiterals : List Value → List String
  | [] => []
  | item :: rest => item.literal :: itemLiterals rest
termination_by structural items => items

def entryLiterals : List (Scalar × Value) → List String
  | [] => []
  | (key, value) :: rest => (key.literal ++ ": " ++ value.literal) :: entryLiterals rest
termination_by structural entries => entries

end

def Value.display : Value → String
  | .scalar s => s.display
  | other => other.literal

def Scalar.isShowable : Scalar → Bool
  | .int i => decide (i.natAbs < Nat.pow 10 Numeral.maxDigits)
  | _ => true

mutual

def Value.isShowable : Value → Bool
  | .scalar s => s.isShowable
  | .list items => itemsShowable items
  | .map entries => entriesShowable entries
termination_by structural value => value

def itemsShowable : List Value → Bool
  | [] => true
  | item :: rest => item.isShowable && itemsShowable rest
termination_by structural items => items

def entriesShowable : List (Scalar × Value) → Bool
  | [] => true
  | (key, value) :: rest => key.isShowable && value.isShowable && entriesShowable rest
termination_by structural entries => entries

end

end PipelineLint
