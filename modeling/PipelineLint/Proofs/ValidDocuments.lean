import PipelineLint.Proofs.EmbeddedTexts

set_option autoImplicit false

namespace PipelineLint.Validation

theorem kind_problem_anywhere (value : Value) (spec : FieldSpec) (path name other label : String)
    (nothing : kindProblem? value spec path name = none) : kindProblem? value spec other label = none := by
  unfold kindProblem? at nothing ⊢
  simp only at nothing ⊢
  split at nothing <;> simp_all

theorem choice_problem_anywhere (value : Value) (spec : FieldSpec) (path name other label : String)
    (nothing : choiceProblem? value spec path name = none) : choiceProblem? value spec other label = none := by
  unfold choiceProblem? at nothing ⊢
  simp only at nothing ⊢
  split at nothing
  · simp_all
  · cases nothing

theorem own_problem_anywhere (value : Value) (spec : FieldSpec) (path name other label : String)
    (nothing : ownProblem? value spec path name = none) : ownProblem? value spec other label = none := by
  unfold ownProblem? at nothing
  split at nothing
  · cases nothing
  · rename_i kind
    rw [ownProblem?, kind_problem_anywhere value spec path name other label kind]
    exact choice_problem_anywhere value spec path name other label nothing

theorem own_problems_anywhere (value : Value) (spec : FieldSpec) (path name other label : String)
    (nothing : (ownProblem? value spec path name).toList = []) : (ownProblem? value spec other label).toList = [] := by
  rw [Option.toList_eq_nil_iff] at nothing ⊢
  exact own_problem_anywhere value spec path name other label nothing

mutual

theorem value_problems_anywhere (spec : FieldSpec) (path name other label : String) :
    (value : Value) → valueProblems spec path name value = [] → valueProblems spec other label value = []
  | .scalar s => by
      intro nothing
      cases s with
      | null => rfl
      | _ => exact own_problems_anywhere _ spec path name other label nothing
  | .list items => by
      intro nothing
      unfold valueProblems at nothing ⊢
      split
      · rename_i field kind listed
        simp only [kind, listed] at nothing
        exact item_problems_anywhere field path name other label 0 items nothing
      · rename_i no_items
        split at nothing
        · rename_i field kind listed
          exact absurd listed (no_items field kind)
        · exact own_problems_anywhere _ spec path name other label nothing
  | .map entries => by
      intro nothing
      unfold valueProblems at nothing ⊢
      split
      · rename_i property properties kind listed
        simp only [kind, listed] at nothing
        exact entry_problems_anywhere (property :: properties) path other entries nothing
      · rename_i no_properties
        split at nothing
        · rename_i property properties kind listed
          exact absurd listed (no_properties property properties kind)
        · exact own_problems_anywhere _ spec path name other label nothing

theorem item_problems_anywhere (spec : FieldSpec) (path name other label : String) (index : Nat) :
    (items : List Value) → itemProblems spec path name index items = [] → itemProblems spec other label index items = []
  | [] => fun _ => rfl
  | item :: items => by
      intro nothing
      unfold itemProblems at nothing ⊢
      obtain ⟨first, others⟩ := List.append_eq_nil_iff.mp nothing
      rw [value_problems_anywhere spec _ _ (indexed other index) (indexed label index) item first,
        item_problems_anywhere spec path name other label (index + 1) items others]
      rfl

theorem entry_problems_anywhere (fields : List (String × FieldSpec)) (path other : String) :
    (entries : Entries) → entryProblems fields path entries = [] → entryProblems fields other entries = []
  | [] => fun _ => rfl
  | (key, value) :: entries => by
      intro nothing
      unfold entryProblems at nothing ⊢
      obtain ⟨first, others⟩ := List.append_eq_nil_iff.mp nothing
      rw [entry_problems_anywhere fields path other entries others, List.append_nil]
      split
      · rename_i name
        split
        · rename_i spec found
          simp only [found] at first
          exact value_problems_anywhere spec _ name (keyed other name) name value first
        · rfl
      · rfl

end

theorem scalar_problems_anywhere (spec : ComponentSpec) (field : FieldSpec) (path other : String) (value : Value)
    (nothing : scalarProblems spec field path value = []) : scalarProblems spec field other value = [] := by
  unfold scalarProblems at nothing ⊢
  simp only at nothing ⊢
  split
  · simpa using nothing
  · rename_i text
    by_cases empty : text = ""
    · simpa [empty] using nothing
    · simp only [if_neg empty] at nothing ⊢
      exact value_problems_anywhere field path spec.name other spec.name _ nothing
  · rename_i no_null no_text
    split at nothing
    · exact absurd rfl no_null
    · exact absurd rfl (no_text _)
    · exact value_problems_anywhere field path spec.name other spec.name _ nothing

theorem mapping_problems_anywhere (spec : ComponentSpec) (path other : String) (entries : Entries)
    (nothing : mappingProblems spec path entries = []) : mappingProblems spec other entries = [] := by
  unfold mappingProblems at nothing ⊢
  obtain ⟨names, values⟩ := List.append_eq_nil_iff.mp nothing
  obtain ⟨required, known⟩ := List.append_eq_nil_iff.mp names
  rw [List.map_eq_nil_iff] at required known
  rw [required, known, entry_problems_anywhere spec.fields path other entries values]
  rfl

theorem component_problems_anywhere (spec : ComponentSpec) (path other : String) (value : Value)
    (nothing : componentProblems spec path value = []) : componentProblems spec other value = [] := by
  unfold componentProblems at nothing ⊢
  split
  · rename_i field written
    simp only [written] at nothing
    exact scalar_problems_anywhere spec field path other value nothing
  · rename_i unwritten
    simp only [unwritten] at nothing
    split at nothing
    · exact mapping_problems_anywhere spec path other [] nothing
    · exact mapping_problems_anywhere spec path other _ nothing
    · cases nothing

structure IsComponent (category : Category) (entries : Entries) (type : String) : Prop where
  typed : Catalog.componentType entries = .ok (some type)
  known : Catalog.isKnown type category = true

theorem slots_problems_none (slots : List Slot) :
    slotsProblems slots = .ok [] ↔ ∀ slot ∈ slots, slotProblems slot = .ok [] := by
  induction slots with
  | nil => simp [slotsProblems]
  | cons slot rest ih =>
      rw [List.forall_mem_cons, ← ih, slotsProblems]
      cases slotProblems slot with
      | error fault => simp [bind, Except.bind]
      | ok first => cases slotsProblems rest <;> simp [bind, Except.bind, pure, Except.pure]

theorem slot_problems_none (path : String) (category : Category) (value : Value) :
    slotProblems ⟨path, category, value⟩ = .ok [] ↔
      ∃ entries type, value = .map entries ∧ IsComponent category entries type ∧
        fieldProblems (keyed path type) category type (Entries.fieldOrNull entries type) = [] ∧
        (∀ part ∈ slotsBeside path category entries, slotProblems part = .ok []) ∧
        ∀ part ∈ slotsWithin (keyed path type) category type (Entries.fieldOrNull entries type), slotProblems part = .ok [] := by
  constructor
  · intro nothing
    cases value with
    | scalar s => simp [slotProblems] at nothing
    | list items => simp [slotProblems] at nothing
    | map entries =>
        rw [slotProblems] at nothing
        simp only [allProblems_eq] at nothing
        split at nothing
        · cases nothing
        · cases nothing
        · rename_i type typed
          obtain ⟨beside, found, nothing⟩ := bound_ok _ _ _ nothing
          by_cases known : Catalog.isKnown type category = true
          · rw [if_pos known] at nothing
            obtain ⟨within, inside, nothing⟩ := bound_ok _ _ _ nothing
            obtain ⟨outer, rfl⟩ := List.append_eq_nil_iff.mp (Except.ok.inj nothing)
            obtain ⟨rfl, fields⟩ := List.append_eq_nil_iff.mp outer
            exact ⟨entries, type, rfl, ⟨typed, known⟩, fields, (slots_problems_none _).mp found,
              (slots_problems_none _).mp inside⟩
          · rw [if_neg known] at nothing
            exact absurd (Except.ok.inj nothing) (by simp)
  · rintro ⟨entries, type, rfl, ⟨typed, known⟩, fields, beside, within⟩
    have outer := (slots_problems_none _).mpr beside
    have inner := (slots_problems_none _).mpr within
    rw [slotProblems]
    simp only [typed, allProblems_eq, outer, known, if_true, inner, fields]
    rfl

inductive IsCase (case : Entries) : Value → Prop where
  | listed (cases : List Value) (member : .map case ∈ cases) : IsCase case (.list cases)
  | field (entries : Entries) (cases : List Value) (given : Entries.field? entries "cases" = some (.list cases))
      (member : .map case ∈ cases) : IsCase case (.map entries)

-- The components that the value of a component holds, by the category and the type of the outer one.
inductive Holds : Category → String → Value → Category → Value → Prop where
  | processors (category : Category) (type : String) (items : List Value) (item : Value)
      (list : type ∈ ["try", "catch", "for_each", "processors"]) (member : item ∈ items) :
      Holds category type (.list items) .processor item
  | fallback (items : List Value) (item : Value) (member : item ∈ items) :
      Holds .output "fallback" (.list items) .output item
  | inputs (entries : Entries) (items : List Value) (item : Value)
      (listed : Entries.field? entries "inputs" = some (.list items)) (member : item ∈ items) :
      Holds .input "broker" (.map entries) .input item
  | outputs (entries : Entries) (items : List Value) (item : Value)
      (listed : Entries.field? entries "outputs" = some (.list items)) (member : item ∈ items) :
      Holds .output "broker" (.map entries) .output item
  | caseProcessors (value : Value) (case : Entries) (items : List Value) (item : Value) (one : IsCase case value)
      (listed : Entries.field? case "processors" = some (.list items)) (member : item ∈ items) :
      Holds .processor "switch" value .processor item
  | caseOutput (value : Value) (case : Entries) (item : Value) (one : IsCase case value)
      (given : Entries.field? case "output" = some item) : Holds .output "switch" value .output item
  | plain (type : String) (entries : Entries) (items : List Value) (item : Value) (plain : type ∉ Catalog.wrappers)
      (listed : Entries.field? entries "processors" = some (.list items)) (member : item ∈ items) :
      Holds .processor type (.map entries) .processor item

-- The places for components in a document: its sections, and what stands beside or below the type of a component.
inductive Stands (document : Entries) : Category → Value → Prop where
  | input (value : Value) (given : Entries.field? document "input" = some value) : Stands document .input value
  | output (value : Value) (given : Entries.field? document "output" = some value) : Stands document .output value
  | processor (pipeline : Entries) (items : List Value) (item : Value)
      (given : Entries.field? document "pipeline" = some (.map pipeline))
      (listed : Entries.field? pipeline "processors" = some (.list items)) (member : item ∈ items) :
      Stands document .processor item
  | resource (name : String) (category : Category) (items : List Value) (item : Value)
      (one : (name, category) ∈ resourceSections) (listed : Entries.field? document name = some (.list items))
      (member : item ∈ items) : Stands document category item
  | beside (category : Category) (entries : Entries) (items : List Value) (item : Value)
      (outer : Stands document category (.map entries)) (fed : category = .input ∨ category = .output)
      (listed : Entries.field? entries "processors" = some (.list items)) (member : item ∈ items) :
      Stands document .processor item
  | within (category part : Category) (entries : Entries) (type : String) (value item : Value)
      (outer : Stands document category (.map entries)) (typed : Catalog.componentType entries = .ok (some type))
      (given : Entries.field? entries type = some value) (held : Holds category type value part item) :
      Stands document part item

theorem numbered_item (path : String) (category : Category) (index : Nat) (items : List Value) (item : Value)
    (member : item ∈ items) : ∃ place, ⟨place, category, item⟩ ∈ numbered path category index items := by
  induction items generalizing index with
  | nil => cases member
  | cons first rest ih =>
      rcases List.mem_cons.mp member with rfl | later
      · exact ⟨indexed path index, List.mem_cons_self⟩
      · obtain ⟨place, found⟩ := ih (index + 1) later
        exact ⟨place, List.mem_cons_of_mem _ found⟩

theorem field_slots_item (path : String) (category : Category) (entries : Entries) (name : String) (items : List Value)
    (item : Value) (listed : Entries.field? entries name = some (.list items)) (member : item ∈ items) :
    ∃ place, ⟨place, category, item⟩ ∈ fieldSlots path category entries name := by
  rw [fieldSlots, listed]
  exact numbered_item (keyed path name) category 0 items item member

theorem cases_slots_case (path : String) (category : Category) (index : Nat) (cases : List Value) (case : Value)
    (member : case ∈ cases) : ∃ place, ∀ slot ∈ caseSlots place category case, slot ∈ casesSlots path category index cases := by
  induction cases generalizing index with
  | nil => cases member
  | cons first rest ih =>
      rcases List.mem_cons.mp member with rfl | later
      · exact ⟨indexed path index, fun slot found => List.mem_append_left _ found⟩
      · obtain ⟨place, all⟩ := ih (index + 1) later
        exact ⟨place, fun slot found => List.mem_append_right _ (all slot found)⟩

theorem switch_slots_case (path : String) (category : Category) (value : Value) (case : Entries) (one : IsCase case value) :
    ∃ place, ∀ slot ∈ caseSlots place category (.map case), slot ∈ switchSlots path category value := by
  cases one with
  | listed cases member => exact cases_slots_case path category 0 cases (.map case) member
  | field entries cases given member =>
      obtain ⟨place, all⟩ := cases_slots_case (keyed path "cases") category 0 cases (.map case) member
      refine ⟨place, fun slot found => ?_⟩
      simp only [switchSlots, given]
      exact all slot found

theorem holds_within (path : String) (category part : Category) (type : String) (value item : Value)
    (known : Catalog.isKnown type category = true) (held : Holds category type value part item) :
    ∃ place, ⟨place, part, item⟩ ∈ slotsWithin path category type value := by
  cases held with
  | processors _ _ items _ list member =>
      -- only processors have these names
      obtain rfl : category = .processor := by
        simp only [List.mem_cons, List.not_mem_nil, or_false] at list
        rcases list with rfl | rfl | rfl | rfl <;> cases category <;> first | rfl | exact absurd known (by decide)
      simp only [List.mem_cons, List.not_mem_nil, or_false] at list
      rcases list with rfl | rfl | rfl | rfl <;> exact numbered_item path .processor 0 items item member
  | fallback items _ member => exact numbered_item path .output 0 items item member
  | inputs entries items _ listed member => exact field_slots_item path .input entries "inputs" items item listed member
  | outputs entries items _ listed member => exact field_slots_item path .output entries "outputs" items item listed member
  | caseProcessors _ case items _ one listed member =>
      obtain ⟨place, all⟩ := switch_slots_case path .processor value case one
      obtain ⟨inside, found⟩ := field_slots_item place .processor case "processors" items item listed member
      exact ⟨inside, all _ found⟩
  | caseOutput _ case _ one given =>
      obtain ⟨place, all⟩ := switch_slots_case path .output value case one
      refine ⟨keyed place "output", all _ ?_⟩
      simp [caseSlots, given]
  | plain _ entries items _ plain listed member =>
      have slots : slotsWithin path .processor type (.map entries) = fieldSlots path .processor entries "processors" := by
        simp [slotsWithin, plain, plainSlots]
      rw [slots]
      exact field_slots_item path .processor entries "processors" items item listed member

theorem section_problems_none (document : Entries) (category : Category)
    (nothing : sectionProblems document category = .ok []) :
    ∃ value, Entries.field? document category.name = some value ∧ slotProblems ⟨category.name, category, value⟩ = .ok [] := by
  unfold sectionProblems at nothing
  cases found : Entries.field? document category.name with
  | none => simp [found] at nothing
  | some value => exact ⟨value, rfl, by simpa only [found] using nothing⟩

theorem resource_problems_none (document : Entries) (name : String) (category : Category) (items : List Value) (item : Value)
    (one : (name, category) ∈ resourceSections) (listed : Entries.field? document name = some (.list items))
    (member : item ∈ items) (nothing : allResourceProblems document = .ok []) :
    ∃ path, slotProblems ⟨path, category, item⟩ = .ok [] := by
  have here := (flattened_none_iff _ _).mp nothing _ one
  simp only [resourceSectionProblems, Entries.fieldOrNull, listed, Option.getD_some] at here
  obtain ⟨path, found⟩ := numbered_item name category 0 items item member
  have labelled := (flattened_none_iff _ _).mp here _ found
  unfold resourceProblems at labelled
  cases answered : slotProblems ⟨path, category, item⟩ with
  | error fault => simp [answered, Except.map] at labelled
  | ok problems =>
      rw [answered] at labelled
      obtain ⟨-, rfl⟩ := List.append_eq_nil_iff.mp (Except.ok.inj labelled)
      exact ⟨path, answered⟩

structure NoProblems (document : Entries) : Prop where
  foreign : foreignProblems document = []
  input : sectionProblems document .input = .ok []
  output : sectionProblems document .output = .ok []
  processors : slotsProblems (processorSlots document) = .ok []
  buffer : bufferProblems (Entries.fieldOrNull document "buffer") = []
  resources : allResourceProblems document = .ok []
  expressions : expressionProblems document = []

theorem document_problems_none (document : Entries) : documentProblems document = .ok [] ↔ NoProblems document := by
  constructor
  · intro nothing
    unfold documentProblems at nothing
    obtain ⟨input, input_found, nothing⟩ := bound_ok _ _ _ nothing
    obtain ⟨output, output_found, nothing⟩ := bound_ok _ _ _ nothing
    obtain ⟨processors, processors_found, nothing⟩ := bound_ok _ _ _ nothing
    obtain ⟨resources, resources_found, nothing⟩ := bound_ok _ _ _ nothing
    have parts := Except.ok.inj nothing
    simp only [List.append_eq_nil_iff] at parts
    obtain ⟨⟨⟨⟨⟨⟨foreign, rfl⟩, rfl⟩, rfl⟩, buffer⟩, rfl⟩, expressions⟩ := parts
    exact ⟨foreign, input_found, output_found, processors_found, buffer, resources_found, expressions⟩
  · rintro ⟨foreign, input, output, processors, buffer, resources, expressions⟩
    rw [documentProblems, input, output, processors, resources, foreign, buffer, expressions]
    rfl

theorem pipeline_formed (document : Entries) (nothing : foreignProblems document = []) (value : Value)
    (given : Entries.field? document "pipeline" = some value) (filled : value ≠ .null) : ∃ entries, value = .map entries := by
  unfold foreignProblems at nothing
  obtain ⟨-, inside⟩ := List.append_eq_nil_iff.mp nothing
  simp only [Entries.fieldOrNull, given, Option.getD_some] at inside
  unfold pipelineProblems at inside
  split at inside
  · exact absurd rfl filled
  · exact ⟨_, rfl⟩
  · cases inside

theorem processor_without_problems (document pipeline : Entries) (items : List Value) (item : Value)
    (given : Entries.field? document "pipeline" = some (.map pipeline))
    (listed : Entries.field? pipeline "processors" = some (.list items)) (member : item ∈ items)
    (nothing : slotsProblems (processorSlots document) = .ok []) : ∃ path, slotProblems ⟨path, .processor, item⟩ = .ok [] := by
  obtain ⟨path, found⟩ := field_slots_item "pipeline" .processor pipeline "processors" items item listed member
  refine ⟨path, (slots_problems_none _).mp nothing _ ?_⟩
  simpa only [processorSlots, Entries.fieldOrNull, given, Option.getD_some] using found

-- The induction is on how a component stands in the document: what stands in a component without errors has none.
theorem stands_without_problems (document : Entries) (none : NoProblems document) (category : Category) (value : Value)
    (stands : Stands document category value) : ∃ path, slotProblems ⟨path, category, value⟩ = .ok [] := by
  induction stands with
  | input value given =>
      obtain ⟨held, found, nothing⟩ := section_problems_none document .input none.input
      obtain rfl : held = value := Option.some.inj (found.symm.trans given)
      exact ⟨_, nothing⟩
  | output value given =>
      obtain ⟨held, found, nothing⟩ := section_problems_none document .output none.output
      obtain rfl : held = value := Option.some.inj (found.symm.trans given)
      exact ⟨_, nothing⟩
  | processor pipeline items item given listed member =>
      exact processor_without_problems document pipeline items item given listed member none.processors
  | resource name category items item one listed member =>
      exact resource_problems_none document name category items item one listed member none.resources
  | beside category entries items item _ fed listed member ih =>
      obtain ⟨path, nothing⟩ := ih
      obtain ⟨same, type, equal, -, -, beside, -⟩ := (slot_problems_none path category _).mp nothing
      obtain rfl : entries = same := Value.map.inj equal
      obtain ⟨place, found⟩ := field_slots_item path .processor entries "processors" items item listed member
      refine ⟨place, beside _ ?_⟩
      rcases fed with rfl | rfl <;> exact found
  | within category part entries type value item _ typed given held ih =>
      obtain ⟨path, nothing⟩ := ih
      obtain ⟨same, named, equal, component, -, -, within⟩ := (slot_problems_none path category _).mp nothing
      obtain rfl : entries = same := Value.map.inj equal
      obtain rfl : named = type := Option.some.inj (Except.ok.inj (component.typed.symm.trans typed))
      simp only [Entries.fieldOrNull, given, Option.getD_some] at within
      obtain ⟨place, found⟩ := holds_within (keyed path named) category part named value item component.known held
      exact ⟨place, within _ found⟩

end PipelineLint.Validation

namespace PipelineLint

open Validation

theorem valid_diagnosis (options : Options) (config : Value) (diagnosis : Diagnosis)
    (answered : diagnose options config = .ok diagnosis) (valid : diagnosis.errors = []) :
    ∃ document, config = .map document ∧ documentProblems document = .ok [] := by
  unfold diagnose at answered
  split at answered
  · rename_i document
    split at answered
    · cases answered
    · rename_i errors found
      split at answered
      · cases answered
      · cases answered
        obtain rfl : errors = [] := valid
        exact ⟨document, rfl, found⟩
  · cases answered
    cases valid

structure SectionsFormed (document : Entries) : Prop where
  input : ∃ entries type, Entries.field? document "input" = some (.map entries) ∧ IsComponent .input entries type
  output : ∃ entries type, Entries.field? document "output" = some (.map entries) ∧ IsComponent .output entries type
  pipeline : ∀ value, Entries.field? document "pipeline" = some value → value ≠ .null → ∃ entries, value = .map entries

def ProcessorsListed (document : Entries) : Prop :=
  ∀ pipeline value, Entries.field? document "pipeline" = some (.map pipeline) →
    Entries.field? pipeline "processors" = some value → value ≠ .null → ∃ items, value = .list items

def ProcessorsFormed (document : Entries) : Prop :=
  ∀ pipeline value, Entries.field? document "pipeline" = some (.map pipeline) →
    Entries.field? pipeline "processors" = some value → value ≠ .null → ∃ items, value = .list items ∧
      ∀ item ∈ items, ∃ entries type, item = .map entries ∧ IsComponent .processor entries type

-- A document without errors has well-formed sections, and well-formed processors exactly if these are a list.
theorem valid_document_formed_iff (options : Options) (document : Entries) (diagnosis : Diagnosis)
    (answered : diagnose options (.map document) = .ok diagnosis) (valid : diagnosis.errors = []) :
    SectionsFormed document ∧ (ProcessorsFormed document ↔ ProcessorsListed document) := by
  obtain ⟨same, equal, nothing⟩ := valid_diagnosis options _ diagnosis answered valid
  obtain rfl : document = same := Value.map.inj equal
  have none := (document_problems_none document).mp nothing
  refine ⟨⟨?_, ?_, pipeline_formed document none.foreign⟩, fun formed pipeline value given held filled => ?_,
    fun listed pipeline value given held filled => ?_⟩
  · obtain ⟨value, found, without⟩ := section_problems_none document .input none.input
    obtain ⟨entries, type, rfl, component, -⟩ := (slot_problems_none _ _ value).mp without
    exact ⟨entries, type, found, component⟩
  · obtain ⟨value, found, without⟩ := section_problems_none document .output none.output
    obtain ⟨entries, type, rfl, component, -⟩ := (slot_problems_none _ _ value).mp without
    exact ⟨entries, type, found, component⟩
  · obtain ⟨items, list, -⟩ := formed pipeline value given held filled
    exact ⟨items, list⟩
  · obtain ⟨items, rfl⟩ := listed pipeline value given held filled
    refine ⟨items, rfl, fun item member => ?_⟩
    obtain ⟨path, without⟩ := processor_without_problems document pipeline items item given held member none.processors
    obtain ⟨entries, type, mapping, component, -⟩ := (slot_problems_none path _ item).mp without
    exact ⟨entries, type, mapping, component⟩

def nestedProcessors : Entries := [
  (.str "input", .map [(.str "stdin", .map [])]),
  (.str "pipeline", .map [(.str "processors", .list [
    .map [(.str "catch", .list [.map [(.str "for_each", .list [.map [(.str "mapping", .str "root = this")]])]])]])]),
  (.str "output", .map [(.str "stdout", .map [])])]

theorem one_type_without_problems (path : String) (category : Category) (type : String) (value : Value) (parts : List Slot)
    (typed : Catalog.componentType [(.str type, value)] = .ok (some type)) (known : Catalog.isKnown type category = true)
    (fields : fieldProblems (keyed path type) category type value = [])
    (beside : slotsBeside path category [(.str type, value)] = [])
    (within : slotsWithin (keyed path type) category type value = parts)
    (inside : ∀ part ∈ parts, slotProblems part = .ok []) :
    slotProblems ⟨path, category, .map [(.str type, value)]⟩ = .ok [] := by
  have held : Entries.fieldOrNull [(.str type, value)] type = value := by
    simp [Entries.fieldOrNull, Entries.field?, Entries.get?]
  refine (slot_problems_none path category _).mpr ⟨_, type, rfl, ⟨typed, known⟩, ?_, by simp [beside], ?_⟩
  · rw [held, fields]
  · rw [held, within]
    exact inside

theorem stdin_to_stdout_valid (document : Entries)
    (input : Entries.field? document "input" = some (.map [(.str "stdin", .map [])]))
    (output : Entries.field? document "output" = some (.map [(.str "stdout", .map [])]))
    (processors : slotsProblems (processorSlots document) = .ok [])
    (others : foreignProblems document = [] ∧ bufferProblems (Entries.fieldOrNull document "buffer") = [] ∧
      expressionProblems document = [])
    (resources : allResourceProblems document = .ok []) : documentProblems document = .ok [] := by
  obtain ⟨foreign, buffer, expressions⟩ := others
  exact (document_problems_none document).mpr
    ⟨foreign, stdin_section document input, stdout_section document output, processors, buffer, resources, expressions⟩

theorem nested_processors_valid : diagnose {} (.map nestedProcessors) = .ok {} := by
  have mapping : slotProblems ⟨"pipeline.processors[0].catch[0].for_each[0]", .processor,
      .map [(.str "mapping", .str "root = this")]⟩ = .ok [] :=
    one_type_without_problems _ _ _ _ [] rfl rfl rfl rfl rfl (by simp)
  have each : slotProblems ⟨"pipeline.processors[0].catch[0]", .processor,
      .map [(.str "for_each", .list [.map [(.str "mapping", .str "root = this")]])]⟩ = .ok [] :=
    one_type_without_problems _ _ _ _ [_] rfl rfl rfl rfl rfl
      (List.forall_mem_singleton.mpr mapping)
  have caught : slotProblems ⟨"pipeline.processors[0]", .processor,
      .map [(.str "catch", .list [.map [(.str "for_each", .list [.map [(.str "mapping", .str "root = this")]])]])]⟩ = .ok [] :=
    one_type_without_problems _ _ _ _ [_] rfl rfl rfl rfl rfl
      (List.forall_mem_singleton.mpr each)
  have errors : documentProblems nestedProcessors = .ok [] :=
    stdin_to_stdout_valid nestedProcessors rfl rfl
      ((slots_problems_none [_]).mpr (List.forall_mem_singleton.mpr caught)) ⟨rfl, rfl, by decide +kernel⟩ rfl
  have warnings : advice {} nestedProcessors = .ok [] := rfl
  simp only [diagnose, errors, warnings]
  rfl

theorem valid_document_formed_iff_nested : diagnose {} (.map nestedProcessors) = .ok {} ∧ ({} : Diagnosis).errors = [] ∧
    SectionsFormed nestedProcessors ∧ ProcessorsFormed nestedProcessors := by
  have formed := valid_document_formed_iff {} nestedProcessors {} nested_processors_valid rfl
  refine ⟨nested_processors_valid, rfl, formed.1, formed.2.mpr fun pipeline value given held _ => ?_⟩
  cases given
  cases held
  exact ⟨_, rfl⟩

def mappedProcessors : Entries := [
  (.str "input", .map [(.str "stdin", .map [])]),
  (.str "pipeline", .map [(.str "processors", .map [(.str "mapping", .str "root = this")])]),
  (.str "output", .map [(.str "stdout", .map [])])]

theorem mapped_processors_valid : diagnose {} (.map mappedProcessors) = .ok {} ∧ ¬ ProcessorsFormed mappedProcessors := by
  constructor
  · have errors : documentProblems mappedProcessors = .ok [] :=
      stdin_to_stdout_valid mappedProcessors rfl rfl rfl ⟨rfl, rfl, by decide +kernel⟩ rfl
    have warnings : advice {} mappedProcessors = .ok [] := rfl
    simp only [diagnose, errors, warnings]
    rfl
  · intro formed
    obtain ⟨items, list, -⟩ := formed _ _ rfl rfl (by simp)
    cases list

-- In a document without errors every place for a component, however deep, holds a mapping with a type that is known there,
-- and the fields of that type, if it has any of its own, are in order.
theorem valid_document_components (options : Options) (config : Value) (diagnosis : Diagnosis)
    (answered : diagnose options config = .ok diagnosis) (valid : diagnosis.errors = []) :
    ∃ document, config = .map document ∧ ∀ category value, Stands document category value →
      ∃ entries type, value = .map entries ∧ IsComponent category entries type ∧
        (type ∉ Catalog.wrappers → ∀ spec, Catalog.specIn? type category = some spec →
          ∀ path, componentProblems spec path (Entries.fieldOrNull entries type) = []) := by
  obtain ⟨document, rfl, nothing⟩ := valid_diagnosis options config diagnosis answered valid
  refine ⟨document, rfl, fun category value stands => ?_⟩
  obtain ⟨path, without⟩ := stands_without_problems document ((document_problems_none document).mp nothing) category value stands
  obtain ⟨entries, type, mapping, component, fields, -⟩ := (slot_problems_none path category value).mp without
  refine ⟨entries, type, mapping, component, fun plain spec specified other => ?_⟩
  refine component_problems_anywhere spec (keyed path type) other _ ?_
  simpa [fieldProblems, plain, specified] using fields

theorem valid_document_components_nested : diagnose {} (.map nestedProcessors) = .ok {} ∧ ({} : Diagnosis).errors = [] ∧
    Stands nestedProcessors .processor (.map [(.str "mapping", .str "root = this")]) ∧
    IsComponent .processor [(.str "mapping", .str "root = this")] "mapping" ∧
    ∃ spec, Catalog.specIn? "mapping" .processor = some spec ∧ ∀ path, componentProblems spec path (.str "root = this") = [] := by
  have outer : Stands nestedProcessors .processor
      (.map [(.str "catch", .list [.map [(.str "for_each", .list [.map [(.str "mapping", .str "root = this")]])]])]) :=
    .processor _ _ _ rfl rfl List.mem_cons_self
  have each : Stands nestedProcessors .processor (.map [(.str "for_each", .list [.map [(.str "mapping", .str "root = this")]])]) :=
    .within _ _ _ "catch" _ _ outer rfl rfl (.processors _ _ _ _ (by decide) List.mem_cons_self)
  have mapping : Stands nestedProcessors .processor (.map [(.str "mapping", .str "root = this")]) :=
    .within _ _ _ "for_each" _ _ each rfl rfl (.processors _ _ _ _ (by decide) List.mem_cons_self)
  obtain ⟨document, equal, every⟩ := valid_document_components {} (.map nestedProcessors) {} nested_processors_valid rfl
  obtain rfl : nestedProcessors = document := Value.map.inj equal
  obtain ⟨entries, type, same, component, fields⟩ := every .processor _ mapping
  obtain rfl := Value.map.inj same
  obtain rfl : "mapping" = type := Option.some.inj (Except.ok.inj component.typed)
  obtain ⟨spec, specified⟩ : ∃ spec, Catalog.specIn? "mapping" .processor = some spec :=
    Option.isSome_iff_exists.mp rfl
  exact ⟨nested_processors_valid, rfl, mapping, component, spec, specified, fields (by decide) spec specified⟩

end PipelineLint
