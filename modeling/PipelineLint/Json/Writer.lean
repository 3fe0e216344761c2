import PipelineLint.Value.Display

set_option autoImplicit false

namespace PipelineLint.Json

def unitEscape (unit : Nat) : List Char :=
  '\\' :: 'u' :: Text.hexDigits 4 unit

def writeChar (ascii : Bool) (c : Char) : List Char :=
  if c = '"' then ['\\', '"']
  else if c = '\\' then ['\\', '\\']
  else if c = '\n' then ['\\', 'n']
  else if c = '\r' then ['\\', 'r']
  else if c = '\t' then ['\\', 't']
  else if c.toNat = 12 then ['\\', 'f']
  else if c.toNat = 8 then ['\\', 'b']
  else if c.toNat < 32 then unitEscape c.toNat
  else if ascii && 126 < c.toNat then
    let code := Text.codeOf c
    if code < 0x10000 then unitEscape code
    else unitEscape (0xD800 + (code - 0x10000) / 0x400) ++ unitEscape (0xDC00 + (code - 0x10000) % 0x400)
  else [c]

def writeString (ascii : Bool) (s : String) : String :=
  String.ofList ('"' :: s.toList.flatMap (writeChar ascii) ++ ['"'])

def writeFloat : Binary64 → String
  | .nan => "NaN"
  | .infinite true => "-Infinity"
  | .infinite false => "Infinity"
  | x => String.ofList (Numeral.floatText x)

def writeScalar (ascii : Bool) : Scalar → String
  | .null => "null"
  | .bool true => "true"
  | .bool false => "false"
  | .int i => String.ofList (Numeral.intText i)
  | .float x => writeFloat x
  | .str s => writeString ascii s
  | .moment m => writeString ascii m.display
  | .sealed literal _ => writeString ascii literal

def writeKey (ascii : Bool) : Scalar → String
  | .str s => writeString ascii s
  | other => "\"" ++ writeScalar ascii other ++ "\""

mutual

def compact : Value → String
  | .scalar s => writeScalar true s
  | .list items => "[" ++ ", ".intercalate (compactItems items) ++ "]"
  | .map entries => "\x7b" ++ ", ".intercalate (compactEntries entries) ++ "\x7d"
termination_by structural value => value

def compactItems : List Value → List String
  | [] => []
  | item :: rest => compact item :: compactItems rest
termination_by structural items => items

def compactEntries : List (Scalar × Value) → List String
  | [] => []
  | (key, value) :: rest => (writeKey true key ++ ": " ++ compact value) :: compactEntries rest
termination_by structural entries => entries

end

def newline (depth : Nat) : String :=
  String.ofList ('\n' :: List.replicate (2 * depth) ' ')

mutual

def indented (depth : Nat) : Value → String
  | .scalar s => writeScalar false s
  | .list [] => "[]"
  | .list items =>
      "[" ++ newline (depth + 1) ++
        ("," ++ newline (depth + 1)).intercalate (indentedItems (depth + 1) items) ++
        newline depth ++ "]"
  | .map [] => "\x7b\x7d"
  | .map entries =>
      "\x7b" ++ newline (depth + 1) ++
        ("," ++ newline (depth + 1)).intercalate (indentedEntries (depth + 1) entries) ++
        newline depth ++ "\x7d"
termination_by structural value => value

def indentedItems (depth : Nat) : List Value → List String
  | [] => []
  | item :: rest => indented depth item :: indentedItems depth rest
termination_by structural items => items

def indentedEntries (depth : Nat) : List (Scalar × Value) → List String
  | [] => []
  | (key, value) :: rest =>
      (writeKey false key ++ ": " ++ indented depth value) :: indentedEntries depth rest
termination_by structural entries => entries

end

end PipelineLint.Json
