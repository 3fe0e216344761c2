import PipelineLint.Number.Binary64
import PipelineLint.Value.Moment

set_option autoImplicit false

namespace PipelineLint

inductive Scalar where
  | null
  | bool (b : Bool)
  | int (i : Int)
  | float (x : Binary64)
  | str (s : String)
  | moment (m : Moment)
  | sealed (literal : String) (isEmpty : Bool)
deriving DecidableEq, Inhabited

inductive Value where
  | scalar (s : Scalar)
  | list (items : List Value)
  | map (entries : List (Scalar × Value))
deriving Inhabited

abbrev Entries := List (Scalar × Value)

namespace Scalar

-- The number that a scalar stands for as a key, as a mantissa and a power of two.
def number? : Scalar → Option (Int × Int)
  | .bool b => some (if b then 1 else 0, 0)
  | .int i => some (i, 0)
  | .float x => x.parts?
  | _ => none

def sameNumber (a b : Int × Int) : Bool :=
  let least := min a.2 b.2
  a.1 * Int.pow 2 (a.2 - least).toNat == b.1 * Int.pow 2 (b.2 - least).toNat

-- Whether two scalars are the same key.
def sameKey (a b : Scalar) : Bool :=
  match a, b with
  | .str s, .str t => s == t
  | .str _, _ => false
  | _, .str _ => false
  | .moment m, .moment n => m.isSame n
  | a, b =>
      match a.number?, b.number? with
      | some x, some y => sameNumber x y
      | none, none => decide (a = b)
      | _, _ => false

-- Whether a scalar counts as given: null, false, zero and the empty text do not.
def isTruthy : Scalar → Bool
  | .null => false
  | .bool b => b
  | .int i => i != 0
  | .float x => !x.isZero
  | .str s => s != ""
  | .moment _ => true
  | .sealed _ isEmpty => !isEmpty

@[simp] theorem sameKey_str (s t : String) : sameKey (.str s) (.str t) = (s == t) := rfl

theorem sameKey_refl (a : Scalar) : sameKey a a = true := by
  cases a with
  | str s => simp
  | float x => cases x <;> simp [sameKey, number?, Binary64.parts?, sameNumber]
  | moment m => exact m.isSame_refl
  | _ => simp [sameKey, number?, sameNumber]

theorem sameKey_str_iff (key : Scalar) (name : String) : sameKey key (.str name) = true ↔ key = .str name := by
  constructor
  · intro same
    cases key with
    | str text => exact congrArg Scalar.str (beq_iff_eq.mp same)
    | _ => cases same
  · rintro rfl
    exact sameKey_refl _

end Scalar

namespace Value

@[match_pattern] abbrev null : Value := .scalar .null
@[match_pattern] abbrev bool (b : Bool) : Value := .scalar (.bool b)
@[match_pattern] abbrev int (i : Int) : Value := .scalar (.int i)
@[match_pattern] abbrev float (x : Binary64) : Value := .scalar (.float x)
@[match_pattern] abbrev str (s : String) : Value := .scalar (.str s)

def key? : Value → Option Scalar
  | .scalar s => some s
  | _ => none

def isTruthy : Value → Bool
  | .scalar s => s.isTruthy
  | .list items => !items.isEmpty
  | .map entries => !entries.isEmpty

def isNull : Value → Bool
  | .null => true
  | _ => false

def text? : Value → Option String
  | .str s => some s
  | _ => none

def items? : Value → Option (List Value)
  | .list items => some items
  | _ => none

def entries? : Value → Option Entries
  | .map entries => some entries
  | _ => none

def entriesOrEmpty : Value → Entries
  | .map entries => entries
  | _ => []

end Value

namespace Entries

def get? (entries : Entries) (key : Scalar) : Option Value :=
  (entries.find? fun entry => entry.1.sameKey key).map Prod.snd

def field? (entries : Entries) (name : String) : Option Value :=
  get? entries (.str name)

def fieldOrNull (entries : Entries) (name : String) : Value :=
  (field? entries name).getD .null

def hasField (entries : Entries) (name : String) : Bool :=
  (field? entries name).isSome

-- Sets the value of a key. A key that is there keeps its place and its first form.
def put : Entries → Scalar → Value → Entries
  | [], key, value => [(key, value)]
  | (old, held) :: rest, key, value =>
      if old.sameKey key then (old, value) :: rest else (old, held) :: put rest key value

def putAll (entries more : Entries) : Entries :=
  more.foldl (fun all entry => put all entry.1 entry.2) entries

def ofAssignments (assignments : List (Scalar × Value)) : Entries :=
  putAll [] assignments

def keys (entries : Entries) : List Scalar :=
  entries.map Prod.fst

theorem keys_put (entries : Entries) (key : Scalar) (value : Value) :
    keys (put entries key value) =
      if (keys entries).any (·.sameKey key) then keys entries else keys entries ++ [key] := by
  induction entries with
  | nil => rfl
  | cons entry rest ih =>
      obtain ⟨old, held⟩ := entry
      by_cases same : old.sameKey key = true
      · simp [put, keys, same]
      · have differ : old.sameKey key = false := by simpa using same
        rw [put, if_neg same]
        simp only [keys, List.map_cons, List.any_cons, differ, Bool.false_or] at ih ⊢
        rw [ih]
        split <;> rename_i found <;> simp [found]

theorem hasField_iff (entries : Entries) (name : String) :
    hasField entries name = true ↔ .str name ∈ keys entries := by
  simp only [hasField, field?, get?, Option.isSome_map, List.find?_isSome, Scalar.sameKey_str_iff, keys,
    List.mem_map]

theorem get?_eq_some_mem {entries : Entries} {key : Scalar} {value : Value}
    (found : get? entries key = some value) : ∃ same, (same, value) ∈ entries := by
  obtain ⟨⟨same, held⟩, search, rfl⟩ := Option.map_eq_some_iff.mp found
  exact ⟨same, List.mem_of_find?_eq_some search⟩

theorem sizeOf_lt_of_get? {entries : Entries} {key : Scalar} {value : Value}
    (found : get? entries key = some value) : sizeOf value < sizeOf entries := by
  obtain ⟨same, member⟩ := get?_eq_some_mem found
  have := List.sizeOf_lt_of_mem member
  simp at this
  omega

theorem sizeOf_lt_of_field? {entries : Entries} {name : String} {value : Value}
    (found : field? entries name = some value) : sizeOf value < sizeOf entries :=
  sizeOf_lt_of_get? found

end Entries

end PipelineLint
