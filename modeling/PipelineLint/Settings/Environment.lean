import PipelineLint.Text.Case
import PipelineLint.Text.Blank
import PipelineLint.Value.Display

set_option autoImplicit false

namespace PipelineLint

abbrev Environment := List (String × String)

namespace Environment

def get? (env : Environment) (name : String) : Option String :=
  env.lookup name

def given? (env : Environment) (name : String) : Option String :=
  (get? env name).filter fun text => text != ""

def unset (env : Environment) (name : String) : Environment :=
  env.filter fun entry => entry.1 != name

def set (env : Environment) (name text : String) : Environment :=
  (name, text) :: unset env name

theorem get?_set (env : Environment) (name text : String) :
    get? (set env name text) name = some text := by
  simp [get?, set]

def switchWords : List (String × Bool) := [
  ("0", false), ("1", true), ("disabled", false), ("enabled", true), ("false", false),
  ("no", false), ("off", false), ("on", true), ("true", true), ("yes", true)
]

structure SwitchFault where
  text : String
deriving DecidableEq

def SwitchFault.message (fault : SwitchFault) : String :=
  "Invalid boolean value: " ++ quotedText fault.text ++ ". Expected one of: [" ++
    ", ".intercalate (switchWords.map fun entry => quotedText entry.1) ++ "]"

def readSwitch (text : String) : Except SwitchFault Bool :=
  match switchWords.lookup (String.ofList (Text.trim (Text.lower text.toList))) with
  | some on => .ok on
  | none => .error ⟨text⟩

def takeReference? : List Char → Option (List Char × List Char)
  | '$' :: '\x7b' :: rest =>
      match rest.dropWhile (· ≠ '\x7d') with
      | _ :: after =>
          match rest.takeWhile (· ≠ '\x7d') with
          | [] => none
          | name => some (name, after)
      | [] => none
  | _ => none

theorem length_takeReference? {text name after : List Char}
    (taken : takeReference? text = some (name, after)) : after.length < text.length := by
  unfold takeReference? at taken
  split at taken
  · rename_i rest
    split at taken
    · rename_i closed
      split at taken
      · cases taken
      · simp only [Option.some.injEq, Prod.mk.injEq] at taken
        obtain ⟨_, rfl⟩ := taken
        have bound := (List.dropWhile_sublist (l := rest) (· ≠ '\x7d')).length_le
        rw [closed] at bound
        simp only [List.length_cons] at bound ⊢
        omega
    · cases taken
  · cases taken

def resolve (env : Environment) (name : List Char) : List Char :=
  match get? env (String.ofList name) with
  | some text => text.toList
  | none => '$' :: '\x7b' :: name ++ ['\x7d']

-- A text with its references replaced. What is put in place is not looked at again.
def substituteText (env : Environment) (text : List Char) : List Char :=
  match text with
  | [] => []
  | c :: rest =>
      match _ : takeReference? (c :: rest) with
      | some (name, after) => resolve env name ++ substituteText env after
      | none => c :: substituteText env rest
termination_by text.length
decreasing_by
  · exact length_takeReference? (by assumption)
  · simp

mutual

-- A value with the references in its texts replaced; keys stay as they are.
def substitute (env : Environment) : Value → Value
  | .scalar s =>
      match s with
      | .str text => .str (String.ofList (substituteText env text.toList))
      | s => .scalar s
  | .list items => .list (substituteItems env items)
  | .map entries => .map (substituteEntries env entries)
termination_by structural value => value

def substituteItems (env : Environment) : List Value → List Value
  | [] => []
  | item :: rest => substitute env item :: substituteItems env rest
termination_by structural items => items

def substituteEntries (env : Environment) : List (Scalar × Value) → List (Scalar × Value)
  | [] => []
  | (key, value) :: rest => (key, substitute env value) :: substituteEntries env rest
termination_by structural entries => entries

end

end Environment

end PipelineLint
