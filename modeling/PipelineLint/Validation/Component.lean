import PipelineLint.Catalog.ComponentType
import PipelineLint.Catalog.Registry
import PipelineLint.Validation.Field
/-!
Components checked wherever they stand in a document. A slot is a place for a component of a
category; a component may have further slots beside its type and within its value.
-/

set_option autoImplicit false

namespace PipelineLint.Validation

structure Slot where
  path : String
  category : Category
  value : Value

def numbered (path : String) (category : Category) : (index : Nat) → List Value → List Slot
  | _, [] => []
  | index, item :: rest =>
      ⟨indexed path index, category, item⟩ :: numbered path category (index + 1) rest

def listSlots (path : String) (category : Category) (value : Value) : List Slot :=
  match value with
  | .list items => numbered path category 0 items
  | _ => []

def fieldSlots (path : String) (category : Category) (entries : Entries) (name : String) :
    List Slot :=
  match Entries.field? entries name with
  | some value => listSlots (keyed path name) category value
  | none => []

def slotsBeside (path : String) (category : Category) (entries : Entries) : List Slot :=
  match category with
  | .input | .output => fieldSlots path .processor entries "processors"
  | _ => []

def caseSlots (path : String) (category : Category) (case : Value) : List Slot :=
  match case with
  | .map entries =>
      match category with
      | .processor => fieldSlots path .processor entries "processors"
      | .output =>
          match Entries.field? entries "output" with
          | some value => [⟨keyed path "output", .output, value⟩]
          | none => []
      | _ => []
  | _ => []

def casesSlots (path : String) (category : Category) : (index : Nat) → List Value → List Slot
  | _, [] => []
  | index, case :: rest =>
      caseSlots (indexed path index) category case ++ casesSlots path category (index + 1) rest

def switchSlots (path : String) (category : Category) (value : Value) : List Slot :=
  match value with
  | .list cases => casesSlots path category 0 cases
  | .map entries =>
      match Entries.field? entries "cases" with
      | some (.list cases) => casesSlots (keyed path "cases") category 0 cases
      | _ => []
  | _ => []

def brokerSlots (path : String) (category : Category) (value : Value) : List Slot :=
  match value with
  | .map entries =>
      fieldSlots path category entries (if category = .input then "inputs" else "outputs")
  | _ => []

def wrapperSlots (path : String) (category : Category) (name : String) (value : Value) :
    List Slot :=
  if name = "try" || name = "catch" then listSlots path .processor value
  else if name = "fallback" then listSlots path category value
  else if name = "broker" then brokerSlots path category value
  else if name = "switch" then switchSlots path category value
  else []

-- Processors whose value is itself a list of processors.
def processorLists : List String := ["try", "catch", "for_each", "processors"]

def plainSlots (path : String) (category : Category) (name : String) (value : Value) : List Slot :=
  if category = .processor then
    match value with
    | .list items => if processorLists.contains name then numbered path .processor 0 items else []
    | .map entries => fieldSlots path .processor entries "processors"
    | _ => []
  else []

-- The slots within the value of a known component.
def slotsWithin (path : String) (category : Category) (name : String) (value : Value) :
    List Slot :=
  if Catalog.wrappers.contains name then wrapperSlots path category name value
  else plainSlots path category name value

def fieldProblems (path : String) (category : Category) (name : String) (value : Value) :
    List Problem :=
  if Catalog.wrappers.contains name then []
  else
    match Catalog.specIn? name category with
    | some spec => componentProblems spec path value
    | none => []

def unknownComponent (path : String) (category : Category) (name : String) : Problem :=
  let suggestion :=
    match (Catalog.resolveComponent name category).map Resolution.candidates with
    | some (first :: others) => "Did you mean: " ++ ", ".intercalate (first :: others) ++ "?"
    | _ => "Check the Expanso documentation for valid " ++ category.label ++ " types"
  ⟨keyed path name, "Unknown " ++ category.label ++ " type: \"" ++ name ++ "\"", some suggestion⟩

def notAMapping (path : String) : Problem :=
  ⟨path, path ++ " must be an object", none⟩

def noType (path : String) : Problem :=
  ⟨path, "No component type found in " ++ path,
    some "Specify a component type like: kafka:, aws_s3:, http_server:, etc."⟩

theorem mem_numbered {path : String} {category : Category} {index : Nat} {items : List Value}
    {slot : Slot} (member : slot ∈ numbered path category index items) :
    slot.value ∈ items := by
  induction items generalizing index with
  | nil => simp [numbered] at member
  | cons item rest ih =>
      simp only [numbered, List.mem_cons] at member
      rcases member with rfl | later
      · simp
      · exact List.mem_cons_of_mem _ (ih later)

theorem sizeOf_listSlots {path : String} {category : Category} {value : Value} {slot : Slot}
    (member : slot ∈ listSlots path category value) : sizeOf slot.value < sizeOf value := by
  unfold listSlots at member
  split at member
  · have := List.sizeOf_lt_of_mem (mem_numbered member)
    simp
    omega
  · simp at member

theorem sizeOf_fieldSlots {path name : String} {category : Category} {entries : Entries}
    {slot : Slot} (member : slot ∈ fieldSlots path category entries name) :
    sizeOf slot.value < sizeOf entries := by
  unfold fieldSlots at member
  split at member
  · rename_i value found
    exact Nat.lt_trans (sizeOf_listSlots member) (Entries.sizeOf_lt_of_field? found)
  · simp at member

theorem sizeOf_slotsBeside {path : String} {category : Category} {entries : Entries} {slot : Slot}
    (member : slot ∈ slotsBeside path category entries) : sizeOf slot.value < sizeOf entries := by
  unfold slotsBeside at member
  split at member
  · exact sizeOf_fieldSlots member
  · exact sizeOf_fieldSlots member
  · simp at member

theorem sizeOf_caseSlots {path : String} {category : Category} {case : Value} {slot : Slot}
    (member : slot ∈ caseSlots path category case) : sizeOf slot.value < sizeOf case := by
  unfold caseSlots at member
  split at member
  · rename_i entries
    have inside : sizeOf slot.value < sizeOf entries := by
      split at member
      · exact sizeOf_fieldSlots member
      · split at member
        · rename_i value found
          simp only [List.mem_singleton] at member
          subst member
          exact Entries.sizeOf_lt_of_field? found
        · simp at member
      · simp at member
    simp
    omega
  · simp at member

theorem sizeOf_casesSlots {path : String} {category : Category} {index : Nat} {cases : List Value}
    {slot : Slot} (member : slot ∈ casesSlots path category index cases) :
    sizeOf slot.value < sizeOf cases := by
  induction cases generalizing index with
  | nil => simp [casesSlots] at member
  | cons case rest ih =>
      simp only [casesSlots, List.mem_append] at member
      rcases member with here | later
      · have := sizeOf_caseSlots here
        simp
        omega
      · have := ih later
        simp
        omega

theorem sizeOf_wrapperSlots {path name : String} {category : Category} {value : Value}
    {slot : Slot} (member : slot ∈ wrapperSlots path category name value) :
    sizeOf slot.value < sizeOf value := by
  unfold wrapperSlots at member
  split at member
  · exact sizeOf_listSlots member
  · split at member
    · exact sizeOf_listSlots member
    · split at member
      · unfold brokerSlots at member
        split at member
        · have := sizeOf_fieldSlots member
          simp
          omega
        · simp at member
      · split at member
        · unfold switchSlots at member
          split at member
          · have := sizeOf_casesSlots member
            simp
            omega
          · split at member
            · rename_i entries _ cases found
              have outer := Entries.sizeOf_lt_of_field? found
              have inner := sizeOf_casesSlots member
              simp at outer ⊢
              omega
            · simp at member
          · simp at member
        · simp at member

theorem sizeOf_plainSlots {path name : String} {category : Category} {value : Value}
    {slot : Slot} (member : slot ∈ plainSlots path category name value) :
    sizeOf slot.value < sizeOf value := by
  unfold plainSlots at member
  split at member
  · split at member
    · split at member
      · have := List.sizeOf_lt_of_mem (mem_numbered member)
        simp
        omega
      · simp at member
    · have := sizeOf_fieldSlots member
      simp
      omega
    · simp at member
  · simp at member

theorem sizeOf_slotsWithin {path name : String} {category : Category} {value : Value}
    {slot : Slot} (member : slot ∈ slotsWithin path category name value) :
    sizeOf slot.value < sizeOf value := by
  unfold slotsWithin at member
  split at member
  · exact sizeOf_wrapperSlots member
  · exact sizeOf_plainSlots member

theorem sizeOf_slotsWithin_field {path type : String} {category : Category} {entries : Entries}
    {slot : Slot}
    (member : slot ∈ slotsWithin path category type (Entries.fieldOrNull entries type)) :
    sizeOf slot.value < sizeOf entries := by
  have inside := sizeOf_slotsWithin member
  unfold Entries.fieldOrNull at inside
  cases found : Entries.field? entries type with
  | some value =>
      rw [found] at inside
      exact Nat.lt_trans inside (Entries.sizeOf_lt_of_field? found)
  | none =>
      exfalso
      rw [Entries.fieldOrNull, found] at member
      simp [slotsWithin, wrapperSlots, listSlots, brokerSlots, switchSlots, plainSlots] at member

mutual

/-- The errors of a component and of all components in it, in document order. -/
def slotProblems (slot : Slot) : Except KeyFault (List Problem) :=
  match _ : slot.value with
  | .map entries =>
      match Catalog.componentType entries with
      | .error fault => .error fault
      | .ok none => .ok [noType slot.path]
      | .ok (some type) => do
          let beside ← allProblems entries (slotsBeside slot.path slot.category entries)
            fun _ member => sizeOf_slotsBeside member
          if Catalog.isKnown type slot.category then
            let value := Entries.fieldOrNull entries type
            let path := keyed slot.path type
            let within ← allProblems entries (slotsWithin path slot.category type value)
              fun _ member => sizeOf_slotsWithin_field member
            return beside ++ fieldProblems path slot.category type value ++ within
          else return beside ++ [unknownComponent slot.path slot.category type]
  | _ => .ok [notAMapping slot.path]
termination_by (sizeOf slot.value, 1, 0)
decreasing_by
  all_goals
    have shape : slot.value = .map entries := by assumption
    rw [shape]
    exact Prod.Lex.left _ _ (by simp)

def allProblems (whole : Entries) (slots : List Slot)
    (smaller : ∀ slot ∈ slots, sizeOf slot.value < sizeOf whole) :
    Except KeyFault (List Problem) :=
  match slots with
  | [] => .ok []
  | slot :: rest => do
      let first ← slotProblems slot
      let others ← allProblems whole rest fun s member => smaller s (List.mem_cons_of_mem _ member)
      return first ++ others
termination_by (sizeOf whole, 0, slots.length)
decreasing_by
  · exact Prod.Lex.left _ _ (smaller slot List.mem_cons_self)
  · exact Prod.Lex.right _ (Prod.Lex.right _ (by simp))

end

def slotsProblems : List Slot → Except KeyFault (List Problem)
  | [] => .ok []
  | slot :: rest => do
      let first ← slotProblems slot
      let others ← slotsProblems rest
      return first ++ others

theorem allProblems_eq (whole : Entries) (slots : List Slot)
    (smaller : ∀ slot ∈ slots, sizeOf slot.value < sizeOf whole) :
    allProblems whole slots smaller = slotsProblems slots := by
  induction slots with
  | nil => rw [allProblems, slotsProblems]
  | cons slot rest ih => rw [allProblems, slotsProblems, ih]

end PipelineLint.Validation
