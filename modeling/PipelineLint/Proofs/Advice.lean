import PipelineLint.Proofs.EmbeddedTexts

set_option autoImplicit false

namespace PipelineLint

open Validation

-- Every component that a check without the rules comes to has a type that can be looked for.
def SlotsReadable (document : Entries) : Prop :=
  ∀ slot ∈ documentSlots document, ∀ part, Visits slot part → part.IsReadable

-- No key that is not text stands in the buffer in front of the first key that could be its type.
def BufferReadable (document : Entries) : Prop :=
  ∀ buffer, Entries.field? document "buffer" = some (.map buffer) → Catalog.TypeIsReadable buffer

theorem buffer_readable_iff (document : Entries) :
    (∀ slot ∈ sectionSlots document .buffer, slot.IsReadable) ↔ BufferReadable document := by
  unfold sectionSlots BufferReadable
  rw [show Category.buffer.name = "buffer" from rfl]
  cases Entries.field? document "buffer" with
  | none => simp
  | some value => simp [Slot.IsReadable]

theorem diagnose_errors (options : Options) (document : Entries) (diagnosis : Diagnosis)
    (answered : diagnose options (.map document) = .ok diagnosis) :
    documentProblems document = .ok diagnosis.errors ∧ unknownKeyWarnings document <+: diagnosis.warnings := by
  unfold diagnose at answered
  simp only at answered
  split at answered
  · cases answered
  · rename_i errors found
    split at answered
    · cases answered
    · cases answered
      exact ⟨found, List.prefix_append _ _⟩

theorem plain_warnings (document : Entries) (diagnosis : Diagnosis)
    (answered : diagnose { compatibility := false } (.map document) = .ok diagnosis) :
    diagnosis.warnings = unknownKeyWarnings document := by
  unfold diagnose advice at answered
  simp only at answered
  split at answered
  · cases answered
  · cases answered
    exact List.append_nil _

-- With the rules and without them the errors are the same and the warnings are only added to, and a check answers in both
-- cases or in none, except where all components can be read but not the buffer.
theorem advice_keeps_errors (floor : Severity) (known : floor ∈ [Severity.error, .warning, .info]) (value : Value) :
    (∀ advised plain, diagnose ⟨true, floor⟩ value = .ok advised → diagnose { compatibility := false } value = .ok plain →
      advised.errors = plain.errors ∧ plain.warnings <+: advised.warnings) ∧
    (((∃ advised, diagnose ⟨true, floor⟩ value = .ok advised) ↔
        ∃ plain, diagnose { compatibility := false } value = .ok plain) ↔
      ∀ document, value = .map document → SlotsReadable document → BufferReadable document) := by
  cases value with
  | scalar s => simp [diagnose]
  | list items => simp [diagnose]
  | map document =>
      constructor
      · intro advised plain with_rules without
        obtain ⟨errors, added⟩ := diagnose_errors _ document advised with_rules
        obtain ⟨same, -⟩ := diagnose_errors _ document plain without
        rw [plain_warnings document plain without]
        exact ⟨Except.ok.inj (errors.symm.trans same), added⟩
      · have ranked : floor.rank?.isSome = true := by
          simp only [List.mem_cons, List.not_mem_nil, or_false] at known
          rcases known with rfl | rfl | rfl <;> rfl
        rw [diagnose_answers ⟨true, floor⟩ _ ranked, diagnose_answers { compatibility := false } _ rfl]
        simp only [Value.map.injEq, forall_eq', ComponentsAreReadable, buffer_readable_iff, SlotsReadable]
        simp

def lonelyResponse : Entries := [(.str "output", .map [(.str "sync_response", .map [])])]

def responseAdvice : String :=
  "sync-response-without-http-server: sync_response output requires http_server input to work correctly"

theorem advice_keeps_errors_response : Severity.error ∈ [Severity.error, .warning, .info] ∧
    ∃ advised plain, diagnose ⟨true, .error⟩ (.map lonelyResponse) = .ok advised ∧
      diagnose { compatibility := false } (.map lonelyResponse) = .ok plain ∧
      advised.errors = [missingSection "input"] ∧ plain.errors = advised.errors ∧ plain.warnings = [] ∧
      advised.warnings = [responseAdvice] := by
  have output : sectionProblems lonelyResponse .output = .ok [] :=
    lone_component "output" .output "sync_response" rfl rfl rfl rfl rfl
  have others : foreignProblems lonelyResponse = [] ∧ expressionProblems lonelyResponse = [] := ⟨rfl, rfl⟩
  have resources : allResourceProblems lonelyResponse = .ok [] := rfl
  have errors : documentProblems lonelyResponse = .ok [missingSection "input"] := by
    unfold documentProblems
    rw [output, resources]
    simp only [others]
    rfl
  have warnings : advice ⟨true, .error⟩ lonelyResponse = .ok [responseAdvice] := rfl
  have advised : diagnose ⟨true, .error⟩ (.map lonelyResponse) = .ok ⟨[missingSection "input"], [responseAdvice]⟩ := by
    simp only [diagnose, errors, warnings]
    rfl
  have plain : diagnose { compatibility := false } (.map lonelyResponse) = .ok ⟨[missingSection "input"], []⟩ := by
    simp only [diagnose, errors, advice]
    rfl
  have same := (advice_keeps_errors .error (by decide) (.map lonelyResponse)).1 _ _ advised plain
  exact ⟨by decide, _, _, advised, plain, rfl, same.1.symm, rfl, rfl⟩

def numberedBuffer : Entries := [
  (.str "input", .map [(.str "stdin", .map [])]),
  (.str "output", .map [(.str "stdout", .map [])]),
  (.str "buffer", .map [(.int 1, .str "x")])]

theorem numbered_buffer_unanswered :
    diagnose { compatibility := false } (.map numberedBuffer) = .ok { errors := [unknownBuffer "1"] } ∧
      diagnose {} (.map numberedBuffer) = .error .keyNotText := by
  have input : sectionProblems numberedBuffer .input = .ok [] := stdin_section numberedBuffer rfl
  have output : sectionProblems numberedBuffer .output = .ok [] := stdout_section numberedBuffer rfl
  have resources : allResourceProblems numberedBuffer = .ok [] := rfl
  have others : foreignProblems numberedBuffer = [] ∧ expressionProblems numberedBuffer = [] := ⟨rfl, rfl⟩
  have errors : documentProblems numberedBuffer = .ok [unknownBuffer "1"] := by
    unfold documentProblems
    rw [input, output, resources]
    simp only [others]
    rfl
  constructor
  · simp only [diagnose, errors, advice]
    rfl
  · simp only [diagnose, errors]
    rfl

end PipelineLint
