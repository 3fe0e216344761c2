import PipelineLint.Proofs.Resolutions
import PipelineLint.Proofs.Runs
import PipelineLint.Repair.Pass

set_option autoImplicit false

namespace PipelineLint

namespace Catalog

def componentReplacement? (name : String) (category : Category) : Option String :=
  (resolveComponent name category).bind Resolution.replacement?

theorem ambiguous_component_unsure (name : String) (category : Category) (resolution : Resolution)
    (found : ambiguousComponent? name category = some resolution) : resolution.replacement? = none := by
  unfold ambiguousComponent? at found
  split at found
  · rename_i ambiguity listed
    split at found
    · cases found
    · cases found
      have unsure := ambiguous_components_unsure _ (lookup_entry _ _ _ listed)
      unfold Resolution.replacement?
      split
      · contradiction
      · rfl
  · cases found

theorem component_replacement_eq (name : String) (category : Category) :
    componentReplacement? name category =
      if isKnown name category then none
      else (misspelledComponent? name category).or
        (if isKnown (lowered name) category then some (lowered name) else none) := by
  unfold componentReplacement? resolveComponent
  by_cases known : isKnown name category = true
  · simp [known]
  · rw [if_neg known, if_neg known]
    cases misspelledComponent? name category with
    | some target => rfl
    | none =>
        by_cases small : isKnown (lowered name) category = true
        · simp [small, Resolution.sure, Resolution.replacement?]
        · simp only [small, Bool.false_eq_true, if_false, Option.none_or]
          cases ambiguous : ambiguousComponent? name category with
          | some resolution => exact ambiguous_component_unsure name category resolution ambiguous
          | none => cases suggest name category <;> rfl

theorem component_replacement_known (name target : String) (category : Category)
    (found : componentReplacement? name category = some target) : isKnown target category = true := by
  obtain ⟨resolution, resolved, sure⟩ := Option.bind_eq_some_iff.mp found
  exact List.contains_iff_mem.mpr ((component_resolution_offers name category resolution resolved).2.replacement target sure)

theorem component_replacement_of_known (name : String) (category : Category) (known : isKnown name category = true) :
    componentReplacement? name category = none := by
  rw [component_replacement_eq, if_pos known]

-- What holds of all names of components, as one sees by going through them.
structure ComponentTables (category : Category) : Prop where
  spelled : ∀ name ∈ names category, Text.isIdentifier name.toList = true
  no_section : ∀ name ∈ names category, Repair.sectionCategories.lookup name = none

theorem component_tables (category : Category) : ComponentTables category := by
  cases category <;> refine ⟨?_, ?_⟩ <;> decide +kernel

theorem known_identifier (name : String) (category : Category) (known : isKnown name category = true) :
    Text.isIdentifier name.toList = true :=
  (component_tables category).spelled name (List.contains_iff_mem.mp known)

theorem known_not_section (name : String) (category : Category) (known : isKnown name category = true) :
    Repair.sectionCategories.lookup name = none :=
  (component_tables category).no_section name (List.contains_iff_mem.mp known)

def owners : List String :=
  (Repair.listCategories ++ Repair.sectionCategories).map Prod.fst

theorem owner_kept : ∀ owner ∈ owners, ∀ category ∈ Category.all, componentReplacement? owner category = none := by
  simp only [component_replacement_eq]
  decide +kernel

def callReplacement? (kind : CallKind) (name : String) : Option String :=
  (Repair.resolveMisnamed name kind).bind Resolution.replacement?

-- What holds of all names of calls, as one sees by going through them.
structure CallTables (kind : CallKind) : Prop where
  spelled : ∀ name ∈ kind.names, Text.isIdentifier name.toList = true
  no_keyword : kind = .function → ∀ name ∈ kind.names, name ∉ Expression.keywords

theorem call_tables (kind : CallKind) : CallTables kind := by
  cases kind <;> refine ⟨?_, ?_⟩ <;> decide +kernel

theorem call_replacement_listed (name target : String) (kind : CallKind)
    (found : callReplacement? kind name = some target) : target ∈ kind.names := by
  obtain ⟨resolution, resolved, sure⟩ := Option.bind_eq_some_iff.mp found
  unfold Repair.resolveMisnamed Expression.classify at resolved
  split at resolved
  · cases resolved
  · split at resolved
    · exact resolved_call_listed name target kind resolution resolved sure
    · cases resolved

theorem call_replacement_of_listed (name : String) (kind : CallKind) (listed : name ∈ kind.names) :
    callReplacement? kind name = none := by
  unfold callReplacement? Repair.resolveMisnamed Expression.classify
  rw [if_pos (List.contains_iff_mem.mpr listed)]
  rfl

end Catalog

theorem Repair.replace_range_name (before name tail : List Char) (other : String) :
    replaceRange before.length (before.length + name.length) other (before ++ (name ++ tail)) =
      before ++ (other.toList ++ tail) := by
  have first : (before ++ (name ++ tail)).take before.length = before := List.take_left
  have last : (before ++ (name ++ tail)).drop (before.length + name.length) = tail := by
    rw [← List.append_assoc, ← List.length_append]
    exact List.drop_left
  unfold replaceRange
  rw [first, last, List.append_assoc]

end PipelineLint
