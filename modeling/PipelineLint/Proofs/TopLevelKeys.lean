import PipelineLint.Proofs.Advice
import PipelineLint.Proofs.ValidDocuments

set_option autoImplicit false

namespace PipelineLint

namespace Validation

structure NoForeignKeys (document : Entries) : Prop where
  invented : ∀ name ∈ inventedKeys, .str name ∉ Entries.keys document
  manifest : ∀ name ∈ manifestKeys, .str name ∉ Entries.keys document
  type : (Entries.fieldOrNull document "type").text? = none
  workflow : .str "name" ∈ Entries.keys document → .str "on" ∉ Entries.keys document
  compose : .str "services" ∉ Entries.keys document ∧ .str "volumes" ∉ Entries.keys document

theorem foreign_problems_none (document : Entries) (nothing : foreignProblems document = []) : NoForeignKeys document := by
  unfold foreignProblems at nothing
  simp only [List.append_eq_nil_iff, List.map_eq_nil_iff, List.filter_eq_nil_iff, Option.toList_eq_nil_iff,
    Option.map_eq_none_iff, ite_eq_right_iff, List.cons_ne_nil, imp_false, Bool.and_eq_true, Bool.or_eq_true, not_and,
    not_or, Entries.hasField_iff] at nothing
  obtain ⟨⟨⟨⟨⟨invented, manifest⟩, type⟩, workflow⟩, compose⟩, -⟩ := nothing
  exact ⟨invented, manifest, type, workflow, compose⟩

theorem is_one_of_iff (names : List String) (key : Scalar) : isOneOf names key = true ↔ ∃ name ∈ names, key = .str name := by
  cases key <;> simp [isOneOf]

theorem unknown_warnings_none (document : Entries) (nothing : unknownKeyWarnings document = []) (key : Scalar)
    (member : key ∈ Entries.keys document) : isOneOf topLevelKeys key = true ∨ isOneOf (reportedKeys document) key = true := by
  unfold unknownKeyWarnings at nothing
  rw [List.map_eq_nil_iff, List.filter_eq_nil_iff] at nothing
  have reported := nothing key member
  cases known : isOneOf topLevelKeys key with
  | true => exact .inl rfl
  | false => exact .inr (by simpa [known] using reported)

theorem reported_key_cases (document : Entries) (none : NoForeignKeys document) (key : Scalar)
    (member : key ∈ Entries.keys document) (reported : isOneOf (reportedKeys document) key = true) :
    key = .str "type" ∨ key = .str "on" := by
  obtain ⟨name, listed, rfl⟩ := (is_one_of_iff _ _).mp reported
  unfold reportedKeys at listed
  simp only [List.mem_append] at listed
  obtain ((invented | manifest) | others) | workflow := listed
  · exact absurd member (none.invented name invented)
  · exact absurd member (none.manifest name manifest)
  · simp only [List.mem_cons, List.not_mem_nil, or_false] at others
    obtain rfl | rfl | rfl := others
    · exact .inl rfl
    · exact absurd member none.compose.1
    · exact absurd member none.compose.2
  · split at workflow
    · rename_i beside
      simp only [List.mem_cons, List.not_mem_nil, or_false] at workflow
      obtain rfl | rfl := workflow
      · exact absurd ((Entries.hasField_iff document "on").mp beside) (none.workflow member)
      · exact .inr rfl
    · cases workflow

end Validation

open Validation

-- A document about which a check says nothing has only keys that are known at the top, but for a `type` that is no text and
-- an `on` without a `name`.
theorem silent_keys_known_iff (document : Entries) (answered : diagnose { compatibility := false } (.map document) = .ok {}) :
    (∀ key ∈ Entries.keys document, isOneOf topLevelKeys key = true ∨
      key = .str "type" ∧ (Entries.fieldOrNull document "type").text? = none ∨
      key = .str "on" ∧ .str "name" ∉ Entries.keys document) ∧
    ((∀ key ∈ Entries.keys document, isOneOf topLevelKeys key = true) ↔
      .str "type" ∉ Entries.keys document ∧ .str "on" ∉ Entries.keys document) := by
  obtain ⟨same, equal, nothing⟩ := valid_diagnosis _ _ _ answered rfl
  obtain rfl : document = same := Value.map.inj equal
  have none := foreign_problems_none document ((document_problems_none document).mp nothing).foreign
  have known (key : Scalar) (member : key ∈ Entries.keys document) :
      isOneOf topLevelKeys key = true ∨ key = .str "type" ∨ key = .str "on" :=
    (unknown_warnings_none document (plain_warnings document _ answered).symm key member).imp_right
      (reported_key_cases document none key member)
  refine ⟨fun key member => ?_, fun all => ⟨fun type => ?_, fun on => ?_⟩, fun ⟨type, on⟩ key member => ?_⟩
  · obtain here | rfl | rfl := known key member
    · exact .inl here
    · exact .inr (.inl ⟨rfl, none.type⟩)
    · exact .inr (.inr ⟨rfl, fun name => none.workflow name member⟩)
  · exact absurd (all _ type) (by decide)
  · exact absurd (all _ on) (by decide)
  · obtain here | rfl | rfl := known key member
    · exact here
    · exact absurd member type
    · exact absurd member on

def unreportedKeys : Entries := [
  (.str "input", .map [(.str "stdin", .map [])]),
  (.str "type", .int 5),
  (.str "on", .str "push"),
  (.str "output", .map [(.str "stdout", .map [])])]

theorem unreported_keys_silent : diagnose { compatibility := false } (.map unreportedKeys) = .ok {} := by
  have errors : documentProblems unreportedKeys = .ok [] :=
    stdin_to_stdout_valid unreportedKeys rfl rfl rfl ⟨by decide +kernel, rfl, by decide +kernel⟩ rfl
  have warnings : unknownKeyWarnings unreportedKeys = [] := by decide +kernel
  simp only [diagnose, errors, warnings, advice]
  rfl

theorem silent_keys_known_iff_unreported : diagnose { compatibility := false } (.map unreportedKeys) = .ok {} ∧
    (∀ key ∈ Entries.keys unreportedKeys, isOneOf topLevelKeys key = true ∨
      key = .str "type" ∧ (Entries.fieldOrNull unreportedKeys "type").text? = none ∨
      key = .str "on" ∧ .str "name" ∉ Entries.keys unreportedKeys) ∧
    .str "type" ∈ Entries.keys unreportedKeys ∧ .str "on" ∈ Entries.keys unreportedKeys :=
  ⟨unreported_keys_silent, (silent_keys_known_iff unreportedKeys unreported_keys_silent).1, by decide, by decide⟩

theorem unreported_keys_unknown : diagnose { compatibility := false } (.map unreportedKeys) = .ok {} ∧
    ¬ ∀ key ∈ Entries.keys unreportedKeys, isOneOf topLevelKeys key = true :=
  ⟨unreported_keys_silent, by decide⟩

end PipelineLint
