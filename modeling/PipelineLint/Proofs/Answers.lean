import PipelineLint.Proofs.BlockCauses
import PipelineLint.Proofs.Blocks
import PipelineLint.Proofs.Components
import PipelineLint.Validation.Pipeline

set_option autoImplicit false

namespace PipelineLint

namespace Validation

def sectionSlots (entries : Entries) (category : Category) : List Slot :=
  match Entries.field? entries category.name with
  | some value => [⟨category.name, category, value⟩]
  | none => []

def resourceSlots (entries : Entries) : List Slot :=
  resourceSections.flatMap fun resources => listSlots resources.1 resources.2 (Entries.fieldOrNull entries resources.1)

def documentSlots (entries : Entries) : List Slot :=
  sectionSlots entries .input ++ sectionSlots entries .output ++ processorSlots entries ++ resourceSlots entries

theorem section_problems_answer (entries : Entries) (category : Category) :
    (∃ problems, sectionProblems entries category = .ok problems) ↔
      ∀ slot ∈ sectionSlots entries category, ∃ problems, slotProblems slot = .ok problems := by
  unfold sectionProblems sectionSlots
  cases Entries.field? entries category.name <;> simp

theorem resource_section_answers (entries : Entries) (name : String) (category : Category) :
    (∃ problems, resourceSectionProblems entries name category = .ok problems) ↔
      ∀ slot ∈ listSlots name category (Entries.fieldOrNull entries name), ∃ problems, slotProblems slot = .ok problems := by
  unfold resourceSectionProblems
  generalize Entries.fieldOrNull entries name = value
  cases value with
  | scalar s => cases s <;> simp [listSlots]
  | list items => simp only [listSlots, map_answers, mapM_answers, resourceProblems]
  | map others => simp [listSlots]

theorem resources_answer (entries : Entries) :
    (∃ problems, allResourceProblems entries = .ok problems) ↔
      ∀ slot ∈ resourceSlots entries, ∃ problems, slotProblems slot = .ok problems := by
  simp only [allResourceProblems, map_answers, mapM_answers, resource_section_answers, resourceSlots, List.mem_flatMap]
  constructor
  · rintro every slot ⟨resources, listed, stands⟩
    exact every resources listed slot stands
  · intro every resources listed slot stands
    exact every slot ⟨resources, listed, stands⟩

theorem document_problems_answer (entries : Entries) :
    (∃ problems, documentProblems entries = .ok problems) ↔
      ∀ slot ∈ documentSlots entries, ∃ problems, slotProblems slot = .ok problems := by
  simp only [documentSlots, List.forall_mem_append]
  rw [← section_problems_answer, ← section_problems_answer, ← slots_problems_answer, ← resources_answer]
  unfold documentProblems
  cases sectionProblems entries .input with
  | error fault => simp [bind, Except.bind]
  | ok input =>
      cases sectionProblems entries .output with
      | error fault => simp [bind, Except.bind]
      | ok output =>
          cases slotsProblems (processorSlots entries) with
          | error fault => simp [bind, Except.bind]
          | ok processors => cases allResourceProblems entries <;> simp [bind, Except.bind, pure, Except.pure]

end Validation

namespace Compatibility

open Validation

theorem part_answers (slot : Slot) : (∃ part, part? slot.value = .ok part) ↔ slot.IsReadable := by
  obtain ⟨path, category, value⟩ := slot
  unfold part? Slot.IsReadable
  cases value with
  | scalar s => simp
  | list items => simp
  | map entries =>
      simp only [Value.map.injEq, forall_eq']
      rw [← Catalog.component_type_answers]
      cases Catalog.componentType entries with
      | error fault => simp
      | ok type => cases type <;> simp

theorem numbered_values (path : String) (category : Category) (index : Nat) (items : List Value) :
    (numbered path category index items).map Slot.value = items := by
  induction items generalizing index with
  | nil => rfl
  | cons item rest ih => rw [numbered, List.map_cons, ih]

theorem processor_slots_values (entries : Entries) :
    (processorSlots entries).map Slot.value = processorValues entries := by
  unfold processorSlots processorValues
  generalize Entries.fieldOrNull entries "pipeline" = section_
  cases section_ with
  | scalar s => rfl
  | list items => rfl
  | map pipeline =>
      simp only [fieldSlots, Entries.fieldOrNull]
      cases Entries.field? pipeline "processors" with
      | none => rfl
      | some value =>
          cases value with
          | scalar s => rfl
          | list items => exact numbered_values _ _ _ items
          | map others => rfl

theorem processors_answer (entries : Entries) :
    (∃ parts, (processorValues entries).mapM processorPart = .ok parts) ↔
      ∀ slot ∈ processorSlots entries, slot.IsReadable := by
  rw [mapM_answers, ← processor_slots_values]
  simp only [List.forall_mem_map, processorPart, map_answers, part_answers]

theorem outline_answers (entries : Entries) :
    (∃ outline, Outline.of entries = .ok outline) ↔
      (∀ slot ∈ processorSlots entries, slot.IsReadable) ∧
        ∀ category ∈ [Category.input, .output, .buffer], ∀ slot ∈ sectionSlots entries category, slot.IsReadable := by
  have named (category : Category) : (∃ part, part? (Entries.fieldOrNull entries category.name) = .ok part) ↔
      ∀ slot ∈ sectionSlots entries category, slot.IsReadable := by
    unfold sectionSlots Entries.fieldOrNull
    cases Entries.field? entries category.name with
    | none => simp [part?]
    | some value => simpa using part_answers ⟨category.name, category, value⟩
  simp only [List.forall_mem_cons, ← processors_answer, ← named, Category.name]
  unfold Outline.of
  cases (processorValues entries).mapM processorPart with
  | error fault => simp [bind, Except.bind]
  | ok processors =>
      cases part? (Entries.fieldOrNull entries "input") with
      | error fault => simp [bind, Except.bind]
      | ok input =>
          cases part? (Entries.fieldOrNull entries "output") with
          | error fault => simp [bind, Except.bind]
          | ok output =>
              cases part? (Entries.fieldOrNull entries "buffer") <;> simp [bind, Except.bind, pure, Except.pure]

theorem outline_iff (entries : Entries) (outline : Outline) :
    Outline.of entries = .ok outline ↔
      outline.whole = entries ∧ (processorValues entries).mapM processorPart = .ok outline.processors ∧
        part? (Entries.fieldOrNull entries "input") = .ok outline.input ∧
        part? (Entries.fieldOrNull entries "output") = .ok outline.output ∧
        part? (Entries.fieldOrNull entries "buffer") = .ok outline.buffer ∧
        outline.cacheLabels = labels (Entries.fieldOrNull entries "cache_resources") ∧
        outline.rateLimitLabels = labels (Entries.fieldOrNull entries "rate_limit_resources") := by
  constructor
  · intro found
    obtain ⟨processors, listed, found⟩ := bound_ok _ _ outline found
    obtain ⟨input, input_read, found⟩ := bound_ok _ _ outline found
    obtain ⟨output, output_read, found⟩ := bound_ok _ _ outline found
    obtain ⟨buffer, buffer_read, found⟩ := bound_ok _ _ outline found
    cases found
    exact ⟨rfl, listed, input_read, output_read, buffer_read, rfl, rfl⟩
  · obtain ⟨whole, input, output, processors, buffer, cacheLabels, rateLimitLabels⟩ := outline
    rintro ⟨same, listed, input_read, output_read, buffer_read, caches, rateLimits⟩
    simp only at same listed input_read output_read buffer_read caches rateLimits
    rw [same, caches, rateLimits, Outline.of, listed, input_read, output_read, buffer_read]
    rfl

theorem rule_severities_ranked : ∀ rule ∈ rules, rule.severity.rank?.isSome = true := by
  simp [rules, Severity.rank?]

theorem filterAuxM_answers {α ε : Type} (keep : α → Except ε Bool) (items kept : List α)
    (decided : ∀ item ∈ items, ∃ keeps, keep item = .ok keeps) :
    ∃ result, items.filterAuxM keep kept = .ok result := by
  induction items generalizing kept with
  | nil => exact ⟨kept, rfl⟩
  | cons item rest ih =>
      obtain ⟨⟨keeps, found⟩, others⟩ := List.forall_mem_cons.mp decided
      rw [List.filterAuxM, found]
      exact ih _ others

theorem warnings_answer (outline : Outline) (floor : Severity) (ranked : floor.rank?.isSome = true) :
    ∃ warnings, Report.warnings (review outline) floor = .ok warnings := by
  rw [Report.warnings, map_answers, Report.atLeast, List.filterM]
  have decided : ∀ finding ∈ review outline, ∃ keeps, finding.atLeast floor = .ok keeps := by
    intro finding member
    obtain ⟨rule, fired, rfl⟩ := List.mem_map.mp member
    obtain ⟨rank, severity⟩ := Option.isSome_iff_exists.mp
      (rule_severities_ranked rule (List.mem_filter.mp fired).1)
    obtain ⟨least, bound⟩ := Option.isSome_iff_exists.mp ranked
    exact ⟨least ≤ rank, by simp only [Finding.atLeast, Rule.finding, severity, bound]⟩
  obtain ⟨reversed, collected⟩ := filterAuxM_answers _ (review outline) [] decided
  rw [collected]
  exact ⟨reversed.reverse, rfl⟩

end Compatibility

open Validation

-- Every component that the check of a document comes to has a type that can be looked for. The rules
-- about combinations look at one component more, the buffer.
def ComponentsAreReadable (options : Options) (entries : Entries) : Prop :=
  (∀ slot ∈ documentSlots entries, ∀ part, Visits slot part → part.IsReadable) ∧
    (options.compatibility = true → ∀ slot ∈ sectionSlots entries .buffer, slot.IsReadable)

theorem advice_answers (options : Options) (entries : Entries) (ranked : options.floor.rank?.isSome = true)
    (checked : ∀ slot ∈ documentSlots entries, slot.IsReadable) :
    (∃ warnings, advice options entries = .ok warnings) ↔
      (options.compatibility = true → ∀ slot ∈ sectionSlots entries .buffer, slot.IsReadable) := by
  have outlined : (∃ outline, Compatibility.Outline.of entries = .ok outline) ↔
      ∀ slot ∈ sectionSlots entries .buffer, slot.IsReadable := by
    simp only [documentSlots, List.forall_mem_append] at checked
    obtain ⟨⟨⟨input, output⟩, processors⟩, -⟩ := checked
    rw [Compatibility.outline_answers]
    simp only [List.forall_mem_cons, List.not_mem_nil, false_implies, implies_true, and_true]
    exact ⟨fun all => all.2.2.2, fun buffer => ⟨processors, input, output, buffer⟩⟩
  unfold advice
  by_cases compatible : options.compatibility = true
  · simp only [compatible, if_true, forall_const, ← outlined, Compatibility.reviewEntries]
    cases Compatibility.Outline.of entries with
    | error fault => cases fault; simp [Except.map]
    | ok outline =>
        obtain ⟨warnings, found⟩ := Compatibility.warnings_answer outline options.floor ranked
        simp [Except.map, found]
  · simp [compatible]

theorem diagnose_answers (options : Options) (value : Value) (ranked : options.floor.rank?.isSome = true) :
    (∃ diagnosis, diagnose options value = .ok diagnosis) ↔
      ∀ entries, value = .map entries → ComponentsAreReadable options entries := by
  cases value with
  | scalar s => simp [diagnose]
  | list items => simp [diagnose]
  | map entries =>
      simp only [Value.map.injEq, forall_eq', ComponentsAreReadable]
      simp only [← slot_problems_answer, ← document_problems_answer]
      unfold diagnose
      cases errors : documentProblems entries with
      | error fault => cases fault; simp [errors]
      | ok problems =>
          have checked : ∀ slot ∈ documentSlots entries, slot.IsReadable := by
            intro slot listed
            have answered := (document_problems_answer entries).mp ⟨problems, errors⟩ slot listed
            exact (slot_problems_answer slot).mp answered slot .root
          rw [← advice_answers options entries ranked checked]
          cases advised : advice options entries <;> simp [errors, advised]

-- A complaint about the form of a text is an error in the answer; no other fault is.
def Document.Fault.IsComplaint (fault : Document.Fault) : Prop :=
  ∃ complaint line, fault = .malformed complaint line

theorem known_ranked (severity : Severity) (known : severity ∈ [Severity.error, .warning, .info]) :
    severity.rank?.isSome = true := by
  simp only [List.mem_cons, List.not_mem_nil, or_false] at known
  rcases known with rfl | rfl | rfl <;> rfl

-- The check answers exactly where the text is read, or complained about, and the components that it comes to can be looked for.
-- A text is neither read nor complained about only where it has a loose escape, a long integer or a brace with another bracket
-- behind it.
theorem check_answers_iff (options : Options) (known : options.floor ∈ [Severity.error, .warning, .info])
    (text : String) :
    ((∃ diagnosis, diagnoseText options text = .ok diagnosis) ↔
      ∀ source, pipelineText? text.toList = some source →
        (∀ fault, Document.readText source = .error fault → fault.IsComplaint) ∧
          ∀ entries, Document.readText source = .ok (.map entries) → ComponentsAreReadable options entries) ∧
    ∀ source fault, pipelineText? text.toList = some source → Document.readText source = .error fault → fault.HasCause source := by
  have ranked := known_ranked options.floor known
  refine ⟨?_, fun source fault _ failed => Document.read_text_cause source fault failed⟩
  unfold diagnoseText
  cases pipelineText? text.toList with
  | none => simp
  | some source =>
      simp only [Option.some.injEq, forall_eq']
      cases Document.readText source with
      | ok value => simpa using diagnose_answers options value ranked
      | error fault => cases fault <;> simp [Document.Fault.IsComplaint]

theorem check_answers_iff_unknown_input : ({} : Options).floor ∈ [Severity.error, .warning, .info] ∧
    ((∃ diagnosis, diagnoseText {} "input:\n  kafaka: {}\n" = .ok diagnosis) ↔
      ∀ source, pipelineText? "input:\n  kafaka: {}\n".toList = some source →
        (∀ fault, Document.readText source = .error fault → fault.IsComplaint) ∧
          ∀ entries, Document.readText source = .ok (.map entries) → ComponentsAreReadable {} entries) ∧
    ∀ source fault, pipelineText? "input:\n  kafaka: {}\n".toList = some source → Document.readText source = .error fault →
      fault.HasCause source :=
  ⟨by decide, check_answers_iff {} (by decide) "input:\n  kafaka: {}\n"⟩

theorem bad_escape_without_answer :
    diagnoseText {} "input: \"\\uZZZZ\"\n" = .error (.document .badEscape) := by
  have value : Document.readValue "\"\\uZZZZ\"".toList 0 ⟨2, []⟩ = .error .badEscape := by
    rw [Document.read_value_scalar _ _ _ (by decide)]
    rfl
  have fault : Document.readText "input: \"\\uZZZZ\"\n".toList = .error .badEscape := by
    rw [Document.read_text_block _ (by decide)]
    refine Document.read_lines_fault 1 ⟨0, "input: \"\\uZZZZ\"".toList⟩ _ [] _ rfl ?_
    rw [Document.read_block_mapping _ _ _ (by decide)]
    exact Document.read_mapping_value_fault _ _ _ _ _ ⟨.plain "input".toList, "\"\\uZZZZ\"".toList⟩ "input" _
      (by decide) rfl value
  have source : pipelineText? "input: \"\\uZZZZ\"\n".toList = some "input: \"\\uZZZZ\"\n".toList := by decide
  rw [diagnoseText, source]
  simp only [fault]

end PipelineLint
