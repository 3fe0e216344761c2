import PipelineLint.Proofs.EmbeddedTexts
import PipelineLint.Proofs.UnknownTypes

set_option autoImplicit false

namespace PipelineLint

open Validation

namespace Catalog

def AllMetadata (keys : List Scalar) : Prop :=
  ∀ key ∈ keys, ∃ name, key = .str name ∧ isMetadata name = true

theorem first_type_behind (front : List Scalar) (type : String) (back : List Scalar) (metadata : AllMetadata front)
    (own : isMetadata type = false) : firstType? (front ++ .str type :: back) = .ok (some type) := by
  induction front with
  | nil => simp [firstType?, own]
  | cons key front ih =>
      obtain ⟨⟨name, rfl, skipped⟩, others⟩ := List.forall_mem_cons.mp metadata
      rw [List.cons_append, firstType?, if_pos skipped, ih others]

theorem first_type_split (keys : List Scalar) (texts : ∀ key ∈ keys, ∃ name, key = .str name)
    (typed : ∃ name, .str name ∈ keys ∧ isMetadata name = false) :
    ∃ front type back, keys = front ++ .str type :: back ∧ AllMetadata front ∧ isMetadata type = false := by
  induction keys with
  | nil => simp at typed
  | cons key keys ih =>
      obtain ⟨⟨name, rfl⟩, others⟩ := List.forall_mem_cons.mp texts
      cases skipped : isMetadata name with
      | false => exact ⟨[], name, keys, rfl, nofun, skipped⟩
      | true =>
          obtain ⟨type, member, own⟩ := typed
          have later : .str type ∈ keys := by
            rcases List.mem_cons.mp member with same | later
            · cases same
              rw [skipped] at own
              cases own
            · exact later
          obtain ⟨front, type, back, rfl, metadata, own⟩ := ih others ⟨type, later, own⟩
          exact ⟨.str name :: front, type, back, rfl, List.forall_mem_cons.mpr ⟨⟨name, rfl, skipped⟩, metadata⟩, own⟩

theorem component_type_behind (entries : Entries) (front : List Scalar) (type : String) (back : List Scalar)
    (keys : Entries.keys entries = front ++ .str type :: back) (metadata : AllMetadata front)
    (own : isMetadata type = false) : componentType entries = .ok (some type) := by
  simp only [componentType, keys, first_type_behind front type back metadata own]

end Catalog

namespace Compatibility

def Outline.partOf (outline : Outline) : Category → Option Part
  | .input => outline.input
  | .output => outline.output
  | .buffer => outline.buffer
  | _ => none

theorem part_of_section (document : Entries) (outline : Outline) (category : Category) (entries : Entries) (type : String)
    (listed : category ∈ [Category.input, .output, .buffer]) (outlined : Outline.of document = .ok outline)
    (held : Entries.field? document category.name = some (.map entries))
    (typed : Catalog.componentType entries = .ok (some type)) :
    outline.partOf category = some ⟨type, Entries.fieldOrNull entries type⟩ := by
  have read : part? (Entries.fieldOrNull document category.name) =
      .ok (some ⟨type, Entries.fieldOrNull entries type⟩) := by
    simp only [Entries.fieldOrNull, held, Option.getD_some, part?, typed]
  obtain ⟨-, -, input, output, buffer, -⟩ := (outline_iff document outline).mp outlined
  simp only [List.mem_cons, List.not_mem_nil, or_false] at listed
  rcases listed with rfl | rfl | rfl
  · exact Except.ok.inj (input.symm.trans read)
  · exact Except.ok.inj (output.symm.trans read)
  · exact Except.ok.inj (buffer.symm.trans read)

end Compatibility

namespace Validation

def componentAs (path : String) (category : Category) (entries : Entries) (type : String) : Except KeyFault (List Problem) := do
  let beside ← slotsProblems (slotsBeside path category entries)
  if Catalog.isKnown type category then
    let value := Entries.fieldOrNull entries type
    let within ← slotsProblems (slotsWithin (keyed path type) category type value)
    return beside ++ fieldProblems (keyed path type) category type value ++ within
  else return beside ++ [unknownComponent path category type]

def bufferAs (entries : Entries) (type : String) : List Problem :=
  if Catalog.isKnown type .buffer then
    match Catalog.specIn? type .buffer with
    | some spec => componentProblems spec ("buffer." ++ type) (Entries.fieldOrNull entries type)
    | none => []
  else [unknownBuffer type]

def sectionAs (category : Category) (entries : Entries) (type : String) : Except KeyFault (List Problem) :=
  match category with
  | .buffer => .ok (bufferAs entries type)
  | _ => componentAs category.name category entries type

def sectionErrors (document : Entries) (category : Category) : Except KeyFault (List Problem) :=
  match category with
  | .buffer => .ok (bufferProblems (Entries.fieldOrNull document "buffer"))
  | _ => sectionProblems document category

theorem slot_problems_typed (path : String) (category : Category) (entries : Entries) (type : String)
    (typed : Catalog.componentType entries = .ok (some type)) :
    slotProblems ⟨path, category, .map entries⟩ = componentAs path category entries type := by
  rw [slotProblems]
  simp only [typed, allProblems_eq, componentAs]

theorem buffer_problems_first (entries : Entries) (first : String) (back : List Scalar)
    (keys : Entries.keys entries = .str first :: back) : bufferProblems (.map entries) = bufferAs entries first := by
  cases entries with
  | nil => cases keys
  | cons entry rest =>
      obtain ⟨key, value⟩ := entry
      cases (List.cons.inj keys).1
      have named : isOneOf Catalog.bufferNames (.str first) = Catalog.isKnown first .buffer := rfl
      have under : Entries.fieldOrNull ((.str first, value) :: rest) first = value := by
        simp [Entries.fieldOrNull, Entries.field?, Entries.get?]
      cases found : Catalog.specIn? first .buffer <;>
        simp only [bufferProblems, bufferAs, named, under, Scalar.display, found]

theorem metadata_no_buffer (name : String) (metadata : Catalog.isMetadata name = true) :
    Catalog.isKnown name .buffer = false := by
  have buffers : ∀ name ∈ Catalog.bufferNames, Catalog.isMetadata name = false := by decide +kernel
  cases known : Catalog.isKnown name .buffer with
  | false => rfl
  | true =>
      rw [buffers name (List.contains_iff_mem.mp known)] at metadata
      cases metadata

-- Of a buffer, metadata is reported as an unknown type. The check of another type does not report it.
theorem buffer_types_apart (entries : Entries) (name type : String) (metadata : Catalog.isMetadata name = true)
    (own : Catalog.isMetadata type = false) : bufferAs entries name ≠ bufferAs entries type := by
  have reported (name : String) : reported? (unknownBuffer name) = some (name, .buffer) := reported_unknown _ name .buffer _
  have unknown : bufferAs entries name = [unknownBuffer name] := by
    rw [bufferAs, metadata_no_buffer name metadata]
    rfl
  intro same
  have names : (bufferAs entries type).filterMap reported? = [(name, .buffer)] := by
    rw [← same, unknown, List.filterMap_cons_some (reported name), List.filterMap_nil]
  unfold bufferAs at names
  split at names
  · have nothing : AllOther (match Catalog.specIn? type .buffer with
        | some spec => componentProblems spec ("buffer." ++ type) (Entries.fieldOrNull entries type)
        | none => []) := by
      split
      · exact component_problems_other _ _ _
      · simp [AllOther]
    rw [all_other_unreported _ nothing] at names
    cases names
  · rw [List.filterMap_cons_some (reported type), List.filterMap_nil] at names
    obtain rfl : type = name := (Prod.mk.inj (List.cons.inj names).1).1
    rw [own] at metadata
    cases metadata

theorem section_errors_typed (document : Entries) (category : Category) (entries : Entries) (type : String)
    (section_ : category = .input ∨ category = .output)
    (held : Entries.field? document category.name = some (.map entries))
    (typed : Catalog.componentType entries = .ok (some type)) :
    sectionErrors document category = sectionAs category entries type := by
  rcases section_ with rfl | rfl
  · simp only [sectionErrors, sectionProblems, held, sectionAs, slot_problems_typed _ _ entries type typed]
  · simp only [sectionErrors, sectionProblems, held, sectionAs, slot_problems_typed _ _ entries type typed]

theorem section_errors_buffer (document entries : Entries) (front : List Scalar) (type : String) (back : List Scalar)
    (held : Entries.field? document "buffer" = some (.map entries))
    (keys : Entries.keys entries = front ++ .str type :: back) (metadata : Catalog.AllMetadata front)
    (own : Catalog.isMetadata type = false) :
    sectionErrors document .buffer = sectionAs .buffer entries type ↔ front = [] := by
  simp only [sectionErrors, sectionAs, Entries.fieldOrNull, held, Option.getD_some, Except.ok.injEq]
  constructor
  · intro same
    cases front with
    | nil => rfl
    | cons key front =>
        obtain ⟨⟨name, rfl, skipped⟩, -⟩ := List.forall_mem_cons.mp metadata
        rw [buffer_problems_first entries name _ keys] at same
        exact absurd same (buffer_types_apart entries name type skipped own)
  · rintro rfl
    exact buffer_problems_first entries type back keys

-- The type of a section in the outline is the first key that is no metadata. The section is checked as one of this type, unless
-- it is a buffer with metadata in front of the type.
theorem section_types_agree_iff (document : Entries) (category : Category) (entries : Entries)
    (listed : category ∈ [Category.input, .output, .buffer])
    (held : Entries.field? document category.name = some (.map entries))
    (texts : ∀ key ∈ Entries.keys entries, ∃ name, key = .str name)
    (typed : ∃ name, .str name ∈ Entries.keys entries ∧ Catalog.isMetadata name = false) :
    ∃ front type back, Entries.keys entries = front ++ .str type :: back ∧ Catalog.AllMetadata front ∧
      Catalog.isMetadata type = false ∧ Catalog.componentType entries = .ok (some type) ∧
      (∀ outline, Compatibility.Outline.of document = .ok outline →
        outline.partOf category = some ⟨type, Entries.fieldOrNull entries type⟩) ∧
      (sectionErrors document category = sectionAs category entries type ↔ category ≠ .buffer ∨ front = []) := by
  obtain ⟨front, type, back, keys, metadata, own⟩ := Catalog.first_type_split (Entries.keys entries) texts typed
  have component := Catalog.component_type_behind entries front type back keys metadata own
  refine ⟨front, type, back, keys, metadata, own, component, fun outline outlined => ?_, ?_⟩
  · exact Compatibility.part_of_section document outline category entries type listed outlined held component
  · simp only [List.mem_cons, List.not_mem_nil, or_false] at listed
    rcases listed with rfl | rfl | rfl
    · simp [section_errors_typed document .input entries type (.inl rfl) held component]
    · simp [section_errors_typed document .output entries type (.inr rfl) held component]
    · simpa using section_errors_buffer document entries front type back held keys metadata own

def labelledInput : Entries := [(.str "label", .str "in"), (.str "stdin", .map [])]

def labelledBuffer : Entries := [(.str "label", .str "held"), (.str "memory", .map [])]

def labelledSections : Entries := [
  (.str "input", .map labelledInput), (.str "buffer", .map labelledBuffer),
  (.str "output", .map [(.str "stdout", .map [])])]

theorem section_types_agree_iff_labelled :
    sectionErrors labelledSections .input = sectionAs .input labelledInput "stdin" ∧
      sectionErrors labelledSections .buffer ≠ sectionAs .buffer labelledBuffer "memory" := by
  have input_keys : ∀ key ∈ Entries.keys labelledInput, ∃ name, key = .str name := by
    simp [labelledInput, Entries.keys]
  have buffer_keys : ∀ key ∈ Entries.keys labelledBuffer, ∃ name, key = .str name := by
    simp [labelledBuffer, Entries.keys]
  constructor
  · obtain ⟨front, type, back, -, -, -, component, -, same⟩ :=
      section_types_agree_iff labelledSections .input labelledInput (by decide) rfl input_keys ⟨"stdin", by decide, rfl⟩
    cases component
    exact same.mpr (.inl (by decide))
  · obtain ⟨front, type, back, keys, -, -, component, -, same⟩ :=
      section_types_agree_iff labelledSections .buffer labelledBuffer (by decide) rfl buffer_keys ⟨"memory", by decide, rfl⟩
    cases component
    intro agree
    rcases same.mp agree with differ | rfl
    · exact differ rfl
    · exact absurd (Scalar.str.inj (List.cons.inj keys).1) (by decide)

-- The label is reported as an unknown type of a buffer that is a memory in the outline, and nothing is wrong with that.
theorem label_checked_as_buffer :
    (Compatibility.Outline.of labelledSections).map (fun outline => outline.buffer.map Compatibility.Part.type) =
        .ok (some "memory") ∧
      sectionAs .buffer labelledBuffer "memory" = .ok [] ∧
      diagnose { compatibility := false } (.map labelledSections) = .ok { errors := [unknownBuffer "label"] } := by
  have input : sectionProblems labelledSections .input = .ok [] :=
    (slot_problems_typed "input" .input labelledInput "stdin" rfl).trans rfl
  have output : sectionProblems labelledSections .output = .ok [] := stdout_section labelledSections rfl
  have resources : allResourceProblems labelledSections = .ok [] := rfl
  have others : foreignProblems labelledSections = [] ∧ expressionProblems labelledSections = [] := ⟨rfl, rfl⟩
  have errors : documentProblems labelledSections = .ok [unknownBuffer "label"] := by
    unfold documentProblems
    rw [input, output, resources]
    simp only [others]
    rfl
  refine ⟨rfl, rfl, ?_⟩
  simp only [diagnose, errors, advice]
  rfl

end Validation

end PipelineLint
