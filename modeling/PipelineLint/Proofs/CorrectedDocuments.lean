import PipelineLint.Proofs.CorrectedComponents

set_option autoImplicit false

namespace PipelineLint.Repair

open Document Validation

section Seen

variable (count : Nat) (above : List Level) (value : Value)

theorem value_after_text : (valueAfter count above value).text? = value.text? := by
  cases value <;> rfl

theorem value_after_truthy : (valueAfter count above value).isTruthy = value.isTruthy := by
  cases value with
  | scalar s => rfl
  | list items => simp [valueAfter, items_after_map, Value.isTruthy]
  | map entries => simp [valueAfter, entries_after_map, Value.isTruthy]

theorem field_or_null_after (entries : Entries) (name : String)
    (same : ∀ key ∈ Entries.keys entries, keyAfter count above key = .str name ↔ key = .str name) :
    Entries.fieldOrNull (entriesAfter count above entries) name =
      valueAfter count (.key name :: above) (Entries.fieldOrNull entries name) := by
  rw [Entries.fieldOrNull, Entries.fieldOrNull, field_corrected count above entries name same]
  cases Entries.field? entries name <;> rfl

end Seen

theorem renamed_no_label (category : Category) : Catalog.isKnown "label" category = false := by
  cases category <;> decide +kernel

theorem resource_corrected (count : Nat) (above : List Level) (name path : String) (category : Category) (value : Value)
    (keeps : Keeps count value) (fits : Fits (.component category) above) (distinct : Distinct (valueAfter count above value))
    (nothing : resourceProblems name ⟨path, category, value⟩ = .ok []) :
    resourceProblems name ⟨path, category, valueAfter count above value⟩ = .ok [] := by
  unfold resourceProblems at nothing ⊢
  cases answered : slotProblems ⟨path, category, value⟩ with
  | error fault => simp [answered, Except.map] at nothing
  | ok problems =>
      rw [answered] at nothing
      obtain ⟨labelled, rfl⟩ := List.append_eq_nil_iff.mp (Except.ok.inj nothing)
      have alone := keeps (.component category) above path fits distinct
        ((slots_problems_none _).mpr (List.forall_mem_singleton.mpr answered))
      rw [(slots_problems_none _).mp alone _ (List.mem_singleton_self _)]
      refine congrArg Except.ok (List.append_eq_nil_iff.mpr ⟨?_, rfl⟩)
      cases value with
      | scalar s => rfl
      | list items => rfl
      | map entries =>
          have label := field_or_null_after count above entries "label" fun key _ =>
            key_after_iff count above "label" (renaming_metadata _ above (by decide)) (fun other pass due => by
              have known := renamed_to_known category above fits other "label" pass due
              rw [renamed_no_label category] at known
              cases known) key
          simp only [valueAfter, label, value_after_truthy]
          exact labelled

theorem resources_corrected (count : Nat) (above : List Level) (name path : String) (category : Category) (items : List Value)
    (keeps : ∀ item ∈ items, Keeps count item) (fits : Fits (.component category) (.item :: above)) (index : Nat)
    (distinct : DistinctItems (itemsAfter count above items))
    (nothing : ∀ slot ∈ numbered path category index items, resourceProblems name slot = .ok []) :
    ∀ slot ∈ numbered path category index (itemsAfter count above items), resourceProblems name slot = .ok [] := by
  induction items generalizing index with
  | nil => exact nothing
  | cons item items ih =>
      obtain ⟨first, rest⟩ := List.forall_mem_cons.mp keeps
      obtain ⟨here, others⟩ := List.forall_mem_cons.mp nothing
      exact List.forall_mem_cons.mpr ⟨resource_corrected count _ name _ category item first fits distinct.1 here,
        ih rest (index + 1) distinct.2 others⟩

section Document

variable (count : Nat) (document : Entries)

theorem given_corrected (name : String) : Entries.fieldOrNull (entriesAfter count [] document) name =
    valueAfter count [.key name] (Entries.fieldOrNull document name) :=
  field_or_null_after count [] document name fun key _ => by rw [key_after_still count still_top]

theorem foreign_corrected : foreignProblems (entriesAfter count [] document) = foreignProblems document := by
  have fields := has_field_still count still_top document
  have below (value : Value) : pipelineProblems (valueAfter count [.key "pipeline"] value) = pipelineProblems value := by
    cases value with
    | scalar s => rfl
    | list items => rfl
    | map entries =>
        rw [valueAfter, pipelineProblems, pipelineProblems, keys_still count (still_below_key "pipeline" [] (by decide))]
  unfold foreignProblems
  simp only [funext fields, given_corrected, value_after_text, below]

variable (writable : Writable (.map document)) (distinct : Distinct (valueAfter count [] (.map document)))

include writable in
theorem given_writable (name : String) : Writable (Entries.fieldOrNull document name) := by
  unfold Entries.fieldOrNull
  cases found : Entries.field? document name with
  | none => exact .inline _ _ .null
  | some value => exact (writable_keys document writable).2.2 _ (field_entry document name value found)

include distinct in
theorem given_distinct (name : String) : Distinct (valueAfter count [.key name] (Entries.fieldOrNull document name)) := by
  unfold Entries.fieldOrNull
  cases found : Entries.field? document name with
  | none => trivial
  | some value => exact distinct_entry count [] document (.str name) value (field_entry document name value found) distinct.2

include writable distinct

theorem given_keeps (role : Role) (name path : String) (fits : Fits role [.key name])
    (nothing : slotsProblems (role.slots path (Entries.fieldOrNull document name)) = .ok []) :
    slotsProblems (role.slots path (Entries.fieldOrNull (entriesAfter count [] document) name)) = .ok [] := by
  rw [given_corrected]
  exact writable_keeps count _ (given_writable document writable name) role _ path fits
    (given_distinct count document distinct name) nothing

theorem section_corrected (category : Category) (one : sectionCategories.lookup category.name = some category)
    (nothing : sectionProblems document category = .ok []) :
    sectionProblems (entriesAfter count [] document) category = .ok [] := by
  obtain ⟨value, given, alone⟩ := section_problems_none document category nothing
  have kept := given_keeps count document writable distinct (.component category) category.name category.name (.inl one)
    ((slots_problems_none _).mpr (List.forall_mem_singleton.mpr (by rw [Entries.fieldOrNull, given]; exact alone)))
  have found : Entries.field? (entriesAfter count [] document) category.name =
      some (Entries.fieldOrNull (entriesAfter count [] document) category.name) := by
    rw [Entries.fieldOrNull, field_still count still_top, given]
    rfl
  rw [sectionProblems, found]
  exact (slots_problems_none _).mp kept _ (List.mem_singleton_self _)

theorem processors_corrected (nothing : slotsProblems (processorSlots document) = .ok []) :
    slotsProblems (processorSlots (entriesAfter count [] document)) = .ok [] :=
  given_keeps count document writable distinct .pipeline "pipeline" "pipeline" rfl nothing

omit writable distinct in
theorem buffer_corrected (nothing : bufferProblems (Entries.fieldOrNull document "buffer") = []) :
    bufferProblems (Entries.fieldOrNull (entriesAfter count [] document) "buffer") = [] := by
  have still := still_below_key "buffer" [] (by decide)
  rw [given_corrected]
  generalize Entries.fieldOrNull document "buffer" = buffer at nothing
  match buffer with
  | .scalar _ => rfl
  | .list _ => rfl
  | .map [] => rfl
  | .map ((key, value) :: entries) =>
      rw [valueAfter, entriesAfter, key_after_still count still]
      unfold bufferProblems at nothing ⊢
      simp only at nothing ⊢
      split
      · rename_i known
        rw [if_pos known] at nothing
        split
        · rename_i spec specified
          simp only [specified] at nothing
          have named : spec.name = key.display := by simpa using List.find?_some specified
          have listed : Catalog.isKnown key.display .buffer = true := by
            cases key with
            | str name => exact known
            | _ => cases known
          rw [← named] at nothing listed ⊢
          exact component_problems_corrected count spec [.key "buffer"]
            (catalog_steady .buffer spec (List.mem_of_find?_eq_some specified))
            (Catalog.known_not_section spec.name .buffer listed) (still spec.name) _ value nothing
        · rfl
      · rename_i unknown
        rw [if_neg unknown] at nothing
        cases nothing

theorem resource_section_corrected (name : String) (category : Category) (one : (name, category) ∈ resourceSections)
    (nothing : resourceSectionProblems document name category = .ok []) :
    resourceSectionProblems (entriesAfter count [] document) name category = .ok [] := by
  have fits : Fits (.component category) [.item, .key name] := by
    have listed : ∀ entry ∈ resourceSections, listCategories.lookup entry.1 = some entry.2 := by decide
    exact .inl (listed (name, category) one)
  have inside := given_writable document writable name
  have apart := given_distinct count document distinct name
  unfold resourceSectionProblems at nothing ⊢
  rw [given_corrected]
  generalize Entries.fieldOrNull document name = value at nothing inside apart
  cases value with
  | scalar s =>
      cases s with
      | null => rfl
      | _ => cases nothing
  | map entries => cases nothing
  | list items =>
      exact (flattened_none_iff _ _).mpr (resources_corrected count [.key name] name name category items
        (fun item member => writable_keeps count item (writable_items items inside item member)) fits 0 apart
        ((flattened_none_iff _ _).mp nothing))

theorem all_resources_corrected (nothing : allResourceProblems document = .ok []) :
    allResourceProblems (entriesAfter count [] document) = .ok [] :=
  (flattened_none_iff _ _).mpr fun entry member =>
    resource_section_corrected count document writable distinct entry.1 entry.2 member ((flattened_none_iff _ _).mp nothing entry member)

theorem document_corrected (none : NoProblems document) : documentProblems (entriesAfter count [] document) =
    .ok (expressionProblems (entriesAfter count [] document)) := by
  rw [documentProblems, section_corrected count document writable distinct .input rfl none.input,
    section_corrected count document writable distinct .output rfl none.output,
    processors_corrected count document writable distinct none.processors,
    all_resources_corrected count document writable distinct none.resources, foreign_corrected, none.foreign,
    buffer_corrected count document none.buffer]
  rfl

end Document

end PipelineLint.Repair
