import PipelineLint.Document.Inline

set_option autoImplicit false

namespace PipelineLint.Document

structure Line where
  indent : Nat
  body : List Char
deriving DecidableEq

namespace Line

def tabWidth : Nat := 2

def ofText (text : List Char) : Line :=
  let flat := Text.expandTabs tabWidth 0 text
  { indent := (flat.takeWhile (· = ' ')).length, body := flat.dropWhile (· = ' ') }

def content (line : Line) : List Char :=
  Text.trim line.body

def dropColumns (line : Line) (column : Nat) : List Char :=
  List.replicate (line.indent - column) ' ' ++ line.body.drop (column - line.indent)

def isBlank (line : Line) : Bool :=
  line.content = []

def weight (line : Line) : Nat :=
  line.body.length + 1

end Line

def startsMark (mark text : List Char) : Bool :=
  mark.isPrefixOf text &&
    match text.drop mark.length with
    | [] => true
    | c :: _ => Text.isBlank c

-- Whether a line that starts in the first column separates or ends documents.
def isMarker (text : List Char) : Bool :=
  startsMark ['-', '-', '-'] text || startsMark ['.', '.', '.'] text

def Line.isSignificant (line : Line) : Bool :=
  match line.content with
  | [] => false
  | c :: _ => c ≠ '#' && !(line.indent = 0 && isMarker line.body)

def isItemText : List Char → Bool
  | ['-'] => true
  | '-' :: ' ' :: _ => true
  | _ => false

def Line.afterDash? (line : Line) : Option Line :=
  if isItemText line.content then
    let lead := line.body.takeWhile (· ≠ '-')
    let rest := (line.body.dropWhile (· ≠ '-')).drop 1
    some {
      indent := line.indent + lead.length + 1 + (rest.takeWhile (· = ' ')).length
      body := rest.dropWhile (· = ' ') }
  else none

inductive KeyText where
  | double (inside : List Char)
  | single (inside : List Char)
  | plain (text : List Char)
deriving DecidableEq

structure EntryHead where
  key : KeyText
  value : List Char
deriving DecidableEq

-- The text behind a colon; a colon that another character follows at once does not count.
def afterColon? : List Char → Option (List Char)
  | [] => some []
  | c :: rest => if Text.isBlank c then some (Text.trimLeft rest) else none

def afterQuotedKey? (text : List Char) : Option (List Char) :=
  match Text.trimLeft text with
  | ':' :: rest => afterColon? rest
  | _ => none

def takeDoubleKey? : List Char → Option (List Char × List Char)
  | [] => none
  | '"' :: rest => some ([], rest)
  | ['\\'] => none
  | '\\' :: c :: rest => (takeDoubleKey? rest).map fun (inside, after) => ('\\' :: c :: inside, after)
  | c :: rest => (takeDoubleKey? rest).map fun (inside, after) => (c :: inside, after)

def takeSingleKey? : List Char → Option (List Char × List Char)
  | [] => none
  | '\'' :: '\'' :: rest => (takeSingleKey? rest).map fun (inside, after) => ('\'' :: inside, after)
  | '\'' :: rest => some ([], rest)
  | c :: rest => (takeSingleKey? rest).map fun (inside, after) => (c :: inside, after)

def opensPlainKey (c : Char) : Bool :=
  !Text.isBlank c &&
    !(Char.ofNat 96 :: "-?:,[]\x7b\x7d#&*!|>'\"%@".toList).contains c

-- The rest of a plain key, up to the first colon that closes it, and the text behind the colon. A number sign after a blank
-- is no part of a key.
def takePlainKey? : (before : Char) → List Char → Option (List Char × List Char)
  | _, [] => none
  | before, c :: rest =>
      match (if c = ':' then afterColon? rest else none) with
      | some value => some ([], value)
      | none =>
          if c = '#' && Text.isBlank before then none
          else (takePlainKey? c rest).map fun (inside, after) => (c :: inside, after)

def entryHead? : List Char → Option EntryHead
  | [] => none
  | '"' :: rest =>
      match takeDoubleKey? rest with
      | some (inside, after) => (afterQuotedKey? after).map (⟨.double inside, ·⟩)
      | none => none
  | '\'' :: rest =>
      match takeSingleKey? rest with
      | some (inside, after) => (afterQuotedKey? after).map (⟨.single inside, ·⟩)
      | none => none
  | c :: rest =>
      if opensPlainKey c then
        (takePlainKey? c rest).map fun (inside, value) => ⟨.plain (c :: inside), value⟩
      else none

def KeyText.read : KeyText → Except Fault String
  | .plain text => .ok (String.ofList (Text.trimRight text))
  | .single inside => .ok (String.ofList inside)
  | .double inside =>
      match takeDouble (inside ++ ['"']) with
      | .closed content _ => .ok (String.ofList content)
      | .badEscape => .error .badEscape
      | .unterminated => .error (.malformed (.unterminatedQuoted ('"' :: inside ++ ['"'])) none)

structure Cursor where
  number : Nat
  lines : List Line

def settle : (number : Nat) → List Line → Cursor
  | number, [] => ⟨number, []⟩
  | number, line :: rest =>
      if line.isSignificant then ⟨number, line :: rest⟩ else settle (number + 1) rest

def Cursor.moveTo (cursor : Cursor) (rest : List Line) : Cursor :=
  ⟨cursor.number + (cursor.lines.length - rest.length), rest⟩

def weightOf : List Line → Nat
  | [] => 0
  | line :: rest => line.weight + weightOf rest

theorem settle_suffix (number : Nat) (lines : List Line) :
    (settle number lines).lines <:+ lines := by
  induction lines generalizing number with
  | nil => exact List.suffix_refl []
  | cons line rest ih =>
      simp only [settle]
      split
      · exact List.suffix_refl _
      · exact (ih (number + 1)).trans (List.suffix_cons line rest)

theorem weightOf_suffix {short long : List Line} (suffix : short <:+ long) :
    weightOf short ≤ weightOf long := by
  obtain ⟨front, rfl⟩ := suffix
  induction front with
  | nil => exact Nat.le_refl _
  | cons line front ih => exact Nat.le_trans ih (Nat.le_add_left _ _)

theorem weightOf_cons (line : Line) (rest : List Line) :
    weightOf (line :: rest) = line.weight + weightOf rest := rfl

theorem isItemText_ne_nil {text : List Char} (item : isItemText text = true) : text ≠ [] := by
  intro empty
  rw [empty] at item
  exact absurd item (by decide)

theorem weight_afterDash? {line item : Line} (found : line.afterDash? = some item) :
    item.weight < line.weight := by
  unfold Line.afterDash? at found
  split at found
  · rename_i isItem
    simp only [Option.some.injEq] at found
    subst found
    have nonempty : line.body ≠ [] := by
      intro empty
      exact isItemText_ne_nil isItem (by simp [Line.content, Text.trim, Text.trimLeft, Text.trimRight, empty])
    have positive : 0 < line.body.length := List.length_pos_iff.mpr nonempty
    have afterLead := (List.dropWhile_sublist (l := line.body) (· ≠ '-')).length_le
    have afterSpaces := (List.dropWhile_sublist
      (l := (line.body.dropWhile (· ≠ '-')).drop 1) (· = ' ')).length_le
    simp only [List.length_drop] at afterSpaces
    simp only [Line.weight]
    omega
  · cases found

end PipelineLint.Document
