import PipelineLint.Text.Digit

set_option autoImplicit false

namespace PipelineLint.Toml

def isGap (c : Char) : Bool :=
  c = ' ' || c = '\t'

def isGapOrFeed (c : Char) : Bool :=
  isGap c || c = '\n'

def isForbidden (multiline : Bool) (c : Char) : Bool :=
  (c.toNat < 32 || c.toNat = 127) && c ≠ '\t' && !(multiline && c = '\n')

def isBareKeyCharacter (c : Char) : Bool :=
  c.isAlphanum || c = '-' || c = '_'

def takeHexChar? (count : Nat) (text : List Char) : Option (List Char × List Char) :=
  if text.length < count then none
  else
    match Text.hexNumber? (text.take count) with
    | some code => if code.isValidChar then some ([Char.ofNat code], text.drop count) else none
    | none => none

def plainEscapes : List (Char × Char) := [
  ('b', Char.ofNat 8), ('t', '\t'), ('n', '\n'), ('f', Char.ofNat 12), ('r', '\r'), ('"', '"'),
  ('\\', '\\')
]

-- What an escape stands for, after its backslash, and the text behind it. Where a string spans lines, a backslash at the end
-- of a line swallows the blanks up to the next character.
def takeEscape? (multiline : Bool) (text : List Char) : Option (List Char × List Char) :=
  match text with
  | [] => none
  | c :: rest =>
      if multiline && isGapOrFeed c then
        match text.dropWhile isGap with
        | '\n' :: after => some ([], after.dropWhile isGapOrFeed)
        | _ => none
      else if c = 'u' then takeHexChar? 4 rest
      else if c = 'U' then takeHexChar? 8 rest
      else (plainEscapes.lookup c).map fun plain => ([plain], rest)

theorem length_takeHexChar?_le {count : Nat} {text chars rest : List Char}
    (taken : takeHexChar? count text = some (chars, rest)) : rest.length ≤ text.length := by
  unfold takeHexChar? at taken
  split at taken
  · cases taken
  · split at taken
    · split at taken
      · cases taken
        simp
      · cases taken
    · cases taken

theorem length_takeEscape?_le {multiline : Bool} {text chars rest : List Char}
    (taken : takeEscape? multiline text = some (chars, rest)) : rest.length ≤ text.length := by
  unfold takeEscape? at taken
  split at taken
  · cases taken
  · rename_i c tail
    split at taken
    · split at taken
      · rename_i after gap
        cases taken
        have feeds := (List.dropWhile_sublist (l := after) isGapOrFeed).length_le
        have gaps := (List.dropWhile_sublist (l := c :: tail) isGap).length_le
        rw [gap] at gaps
        simp only [List.length_cons] at gaps ⊢
        omega
      · cases taken
    · split at taken
      · have := length_takeHexChar?_le taken
        simp
        omega
      · split at taken
        · have := length_takeHexChar?_le taken
          simp
          omega
        · obtain ⟨_, _, same⟩ := Option.map_eq_some_iff.mp taken
          cases same
          simp

def takeBasic? (multiline : Bool) (text : List Char) : Option (List Char × List Char) :=
  match text with
  | [] => none
  | c :: rest =>
      if c = '\\' then
        match _ : takeEscape? multiline rest with
        | some (chars, after) =>
            (takeBasic? multiline after).map fun (inside, final) => (chars ++ inside, final)
        | none => none
      else if c = '"' && !multiline then some ([], rest)
      else if c = '"' && "\"\"".toList.isPrefixOf rest then some ([], rest.drop 2)
      else if isForbidden multiline c then none
      else (takeBasic? multiline rest).map fun (inside, final) => (c :: inside, final)
termination_by text.length
decreasing_by
  · have := length_takeEscape?_le (by assumption)
    simp
    omega
  · simp

def takeLiteral? (text : List Char) : Option (List Char × List Char) :=
  let inside := text.takeWhile (· ≠ '\'')
  match text.dropWhile (· ≠ '\'') with
  | _ :: rest => if inside.any (isForbidden false) then none else some (inside, rest)
  | [] => none

def takeLongLiteral? : List Char → Option (List Char × List Char)
  | '\'' :: '\'' :: '\'' :: rest => some ([], rest)
  | c :: rest =>
      if isForbidden true c then none
      else (takeLongLiteral? rest).map fun (inside, final) => (c :: inside, final)
  | [] => none

-- Adds the quotes, at most two, that stand in front of the closing ones.
def withExtraQuotes (quote : Char) (inside rest : List Char) : List Char × List Char :=
  let extra := (rest.take 2).takeWhile (· = quote)
  (inside ++ extra, rest.drop extra.length)

def dropFeed : List Char → List Char
  | '\n' :: rest => rest
  | text => text

def takeString? (text : List Char) : Option (List Char × List Char) :=
  match text with
  | '"' :: '"' :: '"' :: rest =>
      (takeBasic? true (dropFeed rest)).map fun (inside, after) => withExtraQuotes '"' inside after
  | '"' :: rest => takeBasic? false rest
  | '\'' :: '\'' :: '\'' :: rest =>
      (takeLongLiteral? (dropFeed rest)).map fun (inside, after) =>
        withExtraQuotes '\'' inside after
  | '\'' :: rest => takeLiteral? rest
  | _ => none

def takeKeyPart? (text : List Char) : Option (String × List Char) :=
  match text with
  | '"' :: rest => (takeBasic? false rest).map fun (inside, after) => (String.ofList inside, after)
  | '\'' :: rest => (takeLiteral? rest).map fun (inside, after) => (String.ofList inside, after)
  | _ =>
      match text.takeWhile isBareKeyCharacter with
      | [] => none
      | name => some (String.ofList name, text.dropWhile isBareKeyCharacter)

def takeKeyParts? : (most : Nat) → List Char → Option (List String × List Char)
  | 0, _ => none
  | most + 1, text =>
      match takeKeyPart? text with
      | none => none
      | some (name, rest) =>
          match rest.dropWhile isGap with
          | '.' :: after =>
              (takeKeyParts? most (after.dropWhile isGap)).map fun (names, final) =>
                (name :: names, final)
          | after => some ([name], after)

def takeKey? (text : List Char) : Option (List String × List Char) :=
  takeKeyParts? (text.length + 1) text

end PipelineLint.Toml
