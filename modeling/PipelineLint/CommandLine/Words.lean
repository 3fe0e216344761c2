set_option autoImplicit false

namespace PipelineLint.CommandLine

structure OptionSpec where
  long : String
  letter : Option Char := none
  valued : Bool := false

inductive UsageFault where
  | unknownOption (option : String)
  | missingValue (option : String)
  | unwantedValue (option : String)
  | missingCommand
  | unknownCommand (name : String)
  | missingArgument (name : String)
  | extraArgument (word : String)
  | noFile (path : String)
  | notFile (path : String)
deriving DecidableEq

def UsageFault.message : UsageFault → String
  | .unknownOption option => "No such option: " ++ option
  | .missingValue option => "Option " ++ option ++ " requires an argument."
  | .unwantedValue option => "Option " ++ option ++ " does not take a value."
  | .missingCommand => "Missing command."
  | .unknownCommand name => "No such command '" ++ name ++ "'."
  | .missingArgument name => "Missing argument '" ++ name ++ "'."
  | .extraArgument word => "Got unexpected extra argument (" ++ word ++ ")"
  | .noFile path => "File '" ++ path ++ "' does not exist."
  | .notFile path => "File '" ++ path ++ "' is a directory."

inductive Item where
  | flag (long : String)
  | value (long text : String)
  | word (text : String)
deriving DecidableEq

abbrev Reading := Except UsageFault (List Item × Bool)

def valueItem (long shown : String) (given next : Option String) : Reading :=
  match given, next with
  | some text, _ => .ok ([.value long text], false)
  | none, some text => .ok ([.value long text], true)
  | none, none => .error (.missingValue shown)

def longItem (options : List OptionSpec) (name : String) (given next : Option String) : Reading :=
  let shown := "--" ++ name
  match options.find? (·.long == name), given with
  | none, _ => .error (.unknownOption shown)
  | some option, _ =>
      if option.valued then valueItem option.long shown given next
      else if given.isSome then .error (.unwantedValue shown)
      else .ok ([.flag option.long], false)

-- Options by their letters. What stands behind the letter of an option with a value is the value.
def letterItems (options : List OptionSpec) (next : Option String) : List Char → Reading
  | [] => .ok ([], false)
  | letter :: rest =>
      let shown := String.ofList ['-', letter]
      match options.find? (·.letter == some letter) with
      | none => .error (.unknownOption shown)
      | some option =>
          if option.valued then
            let given := if rest.isEmpty then none else some (String.ofList rest)
            valueItem option.long shown given next
          else
            match letterItems options next rest with
            | .ok (items, used) => .ok (.flag option.long :: items, used)
            | .error fault => .error fault

def readWord (options : List OptionSpec) (word : List Char) (next : Option String) : Reading :=
  match word with
  | '-' :: '-' :: rest =>
      let name := rest.takeWhile (· ≠ '=')
      let given := (rest.drop name.length).tail?.map String.ofList
      longItem options (String.ofList name) given next
  | '-' :: c :: rest => letterItems options next (c :: rest)
  | _ => .ok ([.word (String.ofList word)], false)

def holdsOptions (word : String) : Bool :=
  match word.toList with
  | '-' :: _ :: _ => true
  | _ => false

-- The items of a command line. Options may stand between other words if `mixed` is set; if not, they end at the first other
-- word.
def readWords (options : List OptionSpec) (mixed : Bool) (words : List String) :
    Except UsageFault (List Item) :=
  match words with
  | [] => .ok []
  | word :: rest =>
      if word = "--" then .ok (rest.map .word)
      else if holdsOptions word || mixed then
        match readWord options word.toList rest.head? with
        | .error fault => .error fault
        | .ok (items, used) =>
            (readWords options mixed (if used then rest.tail else rest)).map (items ++ ·)
      else .ok (words.map .word)
termination_by words.length
decreasing_by
  split <;> simp only [List.length_tail, List.length_cons] <;> omega

namespace Item

def hasFlag (items : List Item) (long : String) : Bool :=
  items.contains (.flag long)

def value? (items : List Item) (long : String) : Option String :=
  (items.filterMap fun item =>
    match item with
    | .value name text => if name = long then some text else none
    | _ => none).getLast?

def words (items : List Item) : List String :=
  items.filterMap fun item =>
    match item with
    | .word text => some text
    | _ => none

end Item

end PipelineLint.CommandLine
