import PipelineLint.Proofs.CorrectedFields
import PipelineLint.Proofs.EmbeddedTexts

set_option autoImplicit false

namespace PipelineLint.Repair

open Validation

theorem lint_anywhere (text path other : String) (nothing : Expression.lint text path = []) : Expression.lint text other = [] := by
  unfold Expression.lint at nothing ⊢
  simp only at nothing ⊢
  obtain ⟨mistakes, calls⟩ := List.append_eq_nil_iff.mp nothing
  rw [List.map_eq_nil_iff] at mistakes
  rw [mistakes] at calls ⊢
  rw [List.filterMap_eq_nil_iff] at calls
  refine List.append_eq_nil_iff.mpr ⟨rfl, List.filterMap_eq_nil_iff.mpr fun call member => ?_⟩
  have silent := calls call member
  unfold Expression.callFinding? at silent ⊢
  split at silent
  · cases silent
  · rfl

theorem text_findings_anywhere (text path other : String) (nothing : textFindings path text = []) : textFindings other text = [] := by
  unfold textFindings Expression.lintInterpolations at nothing ⊢
  by_cases opened : Text.occursIn Expression.opener text.toList = true
  · rw [if_pos opened] at nothing ⊢
    cases bodies : (Expression.interpolations text.toList).map Expression.Interpolation.body with
    | nil => rfl
    | cons body others =>
        rw [bodies] at nothing
        exact lint_anywhere _ path other nothing
  · rw [if_neg opened]

def Quiet (count : Nat) (paths : List KeyPath) : Prop :=
  ∀ path ∈ paths, nameAfter count path.1 path.2 ∈ expressionKeys → path.1 ∈ expressionKeys

theorem one_of_corrected (count : Nat) (above : List Level) (names : List String) (kept : ∀ name ∈ names, name ∈ keptNames)
    (key : Scalar) (old : ∀ text, key = .str text → nameAfter count text above ∈ names → text ∈ names) :
    isOneOf names (keyAfter count above key) = isOneOf names key := by
  cases key with
  | str text =>
      rw [Bool.eq_iff_iff]
      simp only [keyAfter, isOneOf, List.contains_iff_mem]
      refine ⟨old text rfl, fun member => ?_⟩
      rw [name_after_never count text above (kept_never text above (kept text member))]
      exact member
  | _ => rfl

section Key

variable (count : Nat) (above : List Level) (key : Scalar)
  (quiet : nameAfter count key.display above ∈ expressionKeys → key.display ∈ expressionKeys)

include quiet in
theorem expression_key_corrected : isOneOf expressionKeys (keyAfter count above key) = isOneOf expressionKeys key :=
  one_of_corrected count above expressionKeys (by decide) key fun _ same => by
    subst same
    exact quiet

include quiet in
theorem parent_corrected : isOneOf queryParents (keyAfter count above key) = isOneOf queryParents key := by
  have expressions : ∀ name ∈ queryParents, name ∈ expressionKeys := by decide
  have names : ∀ name ∈ expressionKeys, name ∈ keptNames := by decide
  refine one_of_corrected count above queryParents (by decide) key fun text same member => ?_
  subst same
  have kept := kept_never text above (names text (quiet (expressions _ member)))
  rw [name_after_never count text above kept] at member
  exact member

theorem renamed_no_query (category : Category) : Catalog.isKnown queryKey category = false := by
  cases category <;> decide +kernel

theorem never_query (key : String) (above : List Level) (pass : Nat) : renaming? key above ≠ some (pass, queryKey) := by
  intro due
  obtain ⟨-, category, replaced⟩ := renaming_replacement key queryKey above pass due
  have known := Catalog.component_replacement_known key queryKey category replaced
  rw [renamed_no_query category] at known
  cases known

theorem query_key_iff : keyAfter count above key = .str queryKey ↔ key = .str queryKey :=
  key_after_iff count above queryKey (kept_never queryKey above (by decide)) (fun other pass => never_query other above pass) key

theorem query_corrected : isOneOf [queryKey] (keyAfter count above key) = isOneOf [queryKey] key := by
  rw [one_name, one_name, Bool.eq_iff_iff, Scalar.sameKey_str_iff, Scalar.sameKey_str_iff, query_key_iff]

end Key

theorem query_findings_corrected (count : Nat) (above : List Level) (path other : String) (entries : Entries)
    (nothing : queryFindings path entries = []) : queryFindings other (entriesAfter count above entries) = [] := by
  unfold queryFindings at nothing ⊢
  rw [field_corrected count above entries queryKey fun key _ => query_key_iff count above key]
  cases found : Entries.field? entries queryKey with
  | none => rfl
  | some value =>
      rw [found] at nothing
      cases value with
      | scalar s =>
          cases s with
          | str text => exact lint_anywhere text _ _ nothing
          | _ => rfl
      | _ => rfl

theorem quiet_append {count : Nat} {first second : List KeyPath} (quiet : Quiet count (first ++ second)) :
    Quiet count first ∧ Quiet count second :=
  List.forall_mem_append.mp quiet

mutual

theorem findings_corrected (count : Nat) : (value : Value) → ∀ above path other, Quiet count (keyPaths above value) →
    findings path value = [] → findings other (valueAfter count above value) = []
  | .scalar s => fun above path other _ nothing => by
      cases s with
      | str text => exact text_findings_anywhere text path other nothing
      | _ => rfl
  | .list items => fun above path other quiet nothing => item_findings_corrected count items above path other 0 quiet nothing
  | .map entries => fun above path other quiet nothing =>
      entry_findings_corrected count entries false above path other quiet nothing

theorem item_findings_corrected (count : Nat) : (items : List Value) → ∀ above path other index,
    Quiet count (itemPaths above items) → itemFindings path index items = [] →
      itemFindings other index (itemsAfter count above items) = []
  | [] => fun _ _ _ _ _ _ => rfl
  | item :: items => fun above path other index quiet nothing => by
      obtain ⟨here, later⟩ := quiet_append quiet
      rw [itemFindings] at nothing
      obtain ⟨first, rest⟩ := List.append_eq_nil_iff.mp nothing
      rw [itemsAfter, itemFindings, findings_corrected count item _ _ (indexed other index) here first,
        item_findings_corrected count items above path other (index + 1) later rest]
      rfl

theorem entry_findings_corrected (count : Nat) : (entries : Entries) → ∀ hasQuery above path other,
    Quiet count (entryPaths above entries) → entryFindings hasQuery path entries = [] →
      entryFindings hasQuery other (entriesAfter count above entries) = []
  | [] => fun _ _ _ _ _ _ => rfl
  | (key, value) :: entries => fun hasQuery above path other quiet nothing => by
      obtain ⟨named, quiet⟩ := List.forall_mem_cons.mp quiet
      obtain ⟨here, later⟩ := quiet_append quiet
      rw [entry_findings_cons] at nothing
      obtain ⟨first, rest⟩ := List.append_eq_nil_iff.mp nothing
      rw [entriesAfter, entry_findings_cons, query_corrected,
        entry_findings_corrected count entries hasQuery above path other later rest, List.append_nil]
      split
      · rfl
      · rename_i other_key
        rw [if_neg other_key] at first
        exact held_findings_corrected count value key (keyAfter count above key) (expression_key_corrected count above key named)
          (parent_corrected count above key named) _ _ _ here first

theorem held_findings_corrected (count : Nat) : (value : Value) → ∀ key name : Scalar,
    isOneOf expressionKeys name = isOneOf expressionKeys key → isOneOf queryParents name = isOneOf queryParents key →
      ∀ above path other, Quiet count (keyPaths above value) → heldFindings key path value = [] →
        heldFindings name other (valueAfter count above value) = []
  | .scalar s => fun key name expression _ above path other _ nothing => by
      cases s with
      | str text =>
          simp only [valueAfter, heldFindings, expression] at nothing ⊢
          split
          · rename_i linted
            rw [if_pos linted] at nothing
            exact lint_anywhere text path other nothing
          · rename_i plain
            rw [if_neg plain] at nothing
            exact text_findings_anywhere text path other nothing
      | _ => rfl
  | .list items => fun _ _ _ _ above path other quiet nothing => item_findings_corrected count items above path other 0 quiet nothing
  | .map entries => fun key name _ parent above path other quiet nothing => by
      simp only [valueAfter, heldFindings, parent] at nothing ⊢
      split
      · rename_i queried
        rw [if_pos queried] at nothing
        obtain ⟨query, others⟩ := List.append_eq_nil_iff.mp nothing
        rw [query_findings_corrected count above path other entries query,
          entry_findings_corrected count entries true above path other quiet others]
        rfl
      · rename_i plain
        rw [if_neg plain] at nothing
        exact entry_findings_corrected count entries false above path other quiet nothing

end

end PipelineLint.Repair
