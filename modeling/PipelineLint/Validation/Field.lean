import PipelineLint.Catalog.Component
import PipelineLint.Diagnosis
import PipelineLint.Json.Writer
import PipelineLint.Name.Nearest
import PipelineLint.Value.Display

set_option autoImplicit false

namespace PipelineLint.Validation

def isInterpolated (text : List Char) : Bool :=
  Text.occursIn ['$', '\x7b'] text

def afterUnit? : List Char → Option (List Char)
  | 'n' :: 's' :: rest => some rest
  | 'u' :: 's' :: rest => some rest
  | 'µ' :: 's' :: rest => some rest
  | 'm' :: 's' :: rest => some rest
  | 's' :: rest => some rest
  | 'm' :: rest => some rest
  | 'h' :: rest => some rest
  | _ => none

def afterAmount? (text : List Char) : Option (List Char) :=
  let (whole, rest) := Numeral.takeDigits text
  if whole = [] then none
  else
    match rest with
    | '.' :: after =>
        let (fraction, rest) := Numeral.takeDigits after
        if fraction = [] then none else some rest
    | _ => some rest

def afterPeriod? (text : List Char) : Option (List Char) :=
  (afterAmount? text).bind afterUnit?

theorem length_afterUnit? {text rest : List Char} (taken : afterUnit? text = some rest) :
    rest.length < text.length := by
  unfold afterUnit? at taken
  split at taken <;> cases taken <;> simp only [List.length_cons] <;> omega

theorem length_afterAmount? {text rest : List Char} (taken : afterAmount? text = some rest) :
    rest.length ≤ text.length := by
  have digits (t : List Char) : (Numeral.takeDigits t).2.length ≤ t.length :=
    (List.dropWhile_sublist _).length_le
  have outer := digits text
  unfold afterAmount? at taken
  dsimp only at taken
  split at taken
  · cases taken
  · split at taken
    · rename_i after start
      have inner := digits after
      split at taken
      · cases taken
      · rw [start] at outer
        simp only [Option.some.injEq] at taken
        subst taken
        simp only [List.length_cons] at outer
        omega
    · simp only [Option.some.injEq] at taken
      subst taken
      exact outer

theorem length_afterPeriod? {text rest : List Char} (taken : afterPeriod? text = some rest) :
    rest.length < text.length := by
  obtain ⟨middle, amount, unit⟩ := Option.bind_eq_some_iff.mp taken
  have := length_afterAmount? amount
  have := length_afterUnit? unit
  omega

def isPeriods (text : List Char) : Bool :=
  match _ : afterPeriod? text with
  | some rest => Numeral.atEnd rest || isPeriods rest
  | none => false
termination_by text.length
decreasing_by exact length_afterPeriod? (by assumption)

-- Whether a text is a duration; the empty text and texts completed later are accepted.
def isDuration (text : List Char) : Bool :=
  text = [] || isInterpolated text || isPeriods text

def isNumeric (text : List Char) : Bool :=
  (Numeral.decimal? text).isSome || isInterpolated text

def booleanWords : List String := ["true", "false", "yes", "no", "on", "off"]

def isBoolean (text : String) : Bool :=
  booleanWords.contains (lowered text) || isInterpolated text.toList

-- Whether a choice stands for every longer text with the same beginning: its last character is a placeholder behind a colon.
def isOpenChoice (choice : List Char) : Bool :=
  match choice.reverse with
  | last :: ':' :: _ => last = 'x' || last = 'n'
  | _ => false

def choiceAllows (choice text : List Char) : Bool :=
  if isOpenChoice choice then
    let stem := choice.dropLast
    stem.isPrefixOf text && stem.length < text.length
  else decide (text = choice)

def choicesAllow (choices : List String) (value : Value) : Bool :=
  let text := Text.lower value.display.toList
  choices.any fun choice => choiceAllows (Text.lower choice.toList) text

def kindName : Value → String
  | .bool _ => "boolean"
  | .int _ => "number"
  | .float _ => "number"
  | .list _ => "array"
  | .map _ => "object"
  | _ => "string"

def placeholder : FieldKind → Value
  | .string => .str "value"
  | .interpolatedString => .str "value"
  | .bloblang => .str "root = this"
  | .number => .int 1
  | .boolean => .bool true
  | .array => .list []
  | .object => .map []
  | .duration => .str "1s"

-- The value that advice about a missing field shows: its first example, its default, or else a placeholder.
def exampleText (spec : FieldSpec) : String :=
  let value :=
    match spec.examples with
    | first :: _ => first
    | [] => if spec.defaultValue.isNull then placeholder spec.kind else spec.defaultValue
  match value with
  | .str s => s
  | other => Json.compact other

def mismatch (value : Value) (spec : FieldSpec) (path name : String) : Problem :=
  ⟨path, "Invalid type for \"" ++ name ++ "\": expected " ++ spec.kind.name ++ ", got " ++
    kindName value, none⟩

def durationKindProblem (value : Value) (path name : String) : Problem :=
  ⟨path, "Invalid duration for \"" ++ name ++ "\": " ++ value.literal,
    some ("Use a duration string like \"" ++ value.display ++ "s\" or \"500ms\"")⟩

def durationTextProblem (text path name : String) : Problem :=
  ⟨path, "Invalid duration for \"" ++ name ++ "\": \"" ++ text ++ "\"",
    some ("Use <number><unit> with units ns, us, ms, s, m, h (e.g. \"1s\", \"500ms\", \"1h30m\")")⟩

def kindProblem? (value : Value) (spec : FieldSpec) (path name : String) : Option Problem :=
  let wrong := some (mismatch value spec path name)
  match spec.kind, value with
  | .string, .list _ => wrong
  | .string, .map _ => wrong
  | .string, _ => none
  | .interpolatedString, .list _ => wrong
  | .interpolatedString, .map _ => wrong
  | .interpolatedString, _ => none
  | .bloblang, .str _ => none
  | .bloblang, _ => wrong
  | .number, .bool _ => wrong
  | .number, .str s => if isNumeric s.toList then none else wrong
  | .number, .list _ => wrong
  | .number, .map _ => wrong
  | .number, _ => none
  | .boolean, .str s => if isBoolean s then none else wrong
  | .boolean, .bool _ => none
  | .boolean, _ => wrong
  | .duration, .str s => if isDuration s.toList then none else some (durationTextProblem s path name)
  | .duration, other => some (durationKindProblem other path name)
  | .array, .list _ => none
  | .array, _ => wrong
  | .object, .map _ => none
  | .object, _ => wrong

def isChoosable : Value → Bool
  | .bool _ => true
  | .int _ => true
  | .float _ => true
  | .str _ => true
  | _ => false

def choiceProblem? (value : Value) (spec : FieldSpec) (path name : String) : Option Problem :=
  let later := (value.text?.map fun s => isInterpolated s.toList).getD false
  if spec.enum.isEmpty || !isChoosable value || later || choicesAllow spec.enum value then none
  else
    some ⟨path, "Invalid value for \"" ++ name ++ "\": \"" ++ value.display ++ "\"",
      some ("Valid values: " ++ ", ".intercalate spec.enum)⟩

@[simp] theorem choiceProblem?_list (items : List Value) (spec : FieldSpec) (path name : String) :
    choiceProblem? (.list items) spec path name = none := by
  simp [choiceProblem?, isChoosable]

@[simp] theorem choiceProblem?_map (entries : Entries) (spec : FieldSpec) (path name : String) :
    choiceProblem? (.map entries) spec path name = none := by
  simp [choiceProblem?, isChoosable]

def ownProblem? (value : Value) (spec : FieldSpec) (path name : String) : Option Problem :=
  match kindProblem? value spec path name with
  | some problem => some problem
  | none => choiceProblem? value spec path name

def indexed (path : String) (index : Nat) : String :=
  path ++ s!"[{index}]"

def keyed (path key : String) : String :=
  path ++ "." ++ key

mutual

-- The errors of a value that was given, from the outside in. Null is never an error.
def valueProblems (spec : FieldSpec) (path name : String) : Value → List Problem
  | .scalar s =>
      match s with
      | .null => []
      | s => (ownProblem? (.scalar s) spec path name).toList
  | .list items =>
      match spec.kind, spec.items with
      | .array, some itemSpec => itemProblems itemSpec path name 0 items
      | _, _ => (ownProblem? (.list items) spec path name).toList
  | .map entries =>
      match spec.kind, spec.properties with
      | .object, property :: properties => entryProblems (property :: properties) path entries
      | _, _ => (ownProblem? (.map entries) spec path name).toList
termination_by structural value => value

def itemProblems (spec : FieldSpec) (path name : String) (index : Nat) : List Value → List Problem
  | [] => []
  | item :: rest =>
      valueProblems spec (indexed path index) (indexed name index) item ++
        itemProblems spec path name (index + 1) rest
termination_by structural items => items

def entryProblems (fields : List (String × FieldSpec)) (path : String) :
    List (Scalar × Value) → List Problem
  | [] => []
  | (key, value) :: rest =>
      (match key with
        | .str name =>
            match fields.lookup name with
            | some spec => valueProblems spec (keyed path name) name value
            | none => []
        | _ => []) ++ entryProblems fields path rest
termination_by structural entries => entries

end

def missingField (spec : ComponentSpec) (path name : String) : Problem :=
  let sample := ((spec.field? name).map exampleText).getD ""
  ⟨keyed path name,
    "Missing required field \"" ++ name ++ "\" for " ++ spec.category.name ++ " \"" ++ spec.name ++
      "\"",
    some ("Add: " ++ name ++ ": " ++ sample)⟩

def sortedLine (texts : List String) : String :=
  ", ".intercalate (texts.mergeSort fun a b => !(b < a))

def unknownField (spec : ComponentSpec) (path name : String) : Problem :=
  let known := spec.fields.map Prod.fst
  let suggestion :=
    match Name.nearest name known [] true with
    | [] =>
        if known.isEmpty then
          "\"" ++ spec.name ++ "\" takes no fields: use " ++ spec.name ++ ": \x7b\x7d"
        else "Valid fields: " ++ sortedLine known
    | similar => "Did you mean: " ++ ", ".intercalate similar ++ "?"
  ⟨keyed path name,
    "Unknown field \"" ++ name ++ "\" for " ++ spec.category.name ++ " \"" ++ spec.name ++ "\"",
    some suggestion⟩

def isField (spec : ComponentSpec) (key : Scalar) : Bool :=
  match key with
  | .str name => (spec.field? name).isSome
  | _ => false

def scalarProblems (spec : ComponentSpec) (field : FieldSpec) (path : String) (value : Value) :
    List Problem :=
  let missing :=
    if field.required then
      [⟨path, "Missing value for \"" ++ spec.name ++ "\"",
        some ("Add: " ++ spec.name ++ ": " ++ exampleText field)⟩]
    else []
  match value with
  | .null => missing
  | .str s => if s = "" then missing else valueProblems field path spec.name value
  | other => valueProblems field path spec.name other

def mappingProblems (spec : ComponentSpec) (path : String) (entries : Entries) : List Problem :=
  ((spec.requiredFields.filter fun name => !Entries.hasField entries name).map
      (missingField spec path)) ++
    (((Entries.keys entries).filter fun key => !isField spec key).map fun key =>
      unknownField spec path key.display) ++
    entryProblems spec.fields path entries

def componentProblems (spec : ComponentSpec) (path : String) (value : Value) : List Problem :=
  match spec.scalarField? with
  | some field => scalarProblems spec field path value
  | none =>
      match value with
      | .null => mappingProblems spec path []
      | .map entries => mappingProblems spec path entries
      | other =>
          [⟨path,
            "\"" ++ spec.name ++ "\" configuration must be an object, got " ++ kindName other,
            some ("Use: " ++ spec.name ++ ": \x7b ... \x7d")⟩]

end PipelineLint.Validation
