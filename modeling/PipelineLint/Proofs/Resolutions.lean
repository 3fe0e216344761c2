import PipelineLint.Catalog.Resolution
import PipelineLint.Proofs.NearestNames

set_option autoImplicit false

namespace PipelineLint

namespace Catalog

theorem lookup_entry {α : Type} (table : List (String × α)) (name : String) (value : α)
    (found : table.lookup name = some value) : (name, value) ∈ table := by
  obtain ⟨before, after, rfl, -⟩ := List.lookup_eq_some_iff.mp found
  simp

-- A resolution that offers some of the names in a list, each once, and is sure of one only if there is no other.
structure Offers (listed : List String) (resolution : Resolution) : Prop where
  some_name : resolution.candidates ≠ []
  distinct : resolution.candidates.Nodup
  listed : resolution.candidates ⊆ listed
  alone : resolution.confidence = .high → ∃ target, resolution.candidates = [target]

theorem sure_offers (listed : List String) (target : String) (evidence : Evidence) (member : target ∈ listed) :
    Offers listed (.sure target evidence) :=
  ⟨List.cons_ne_nil target [], by simp [Resolution.sure], by simpa [Resolution.sure] using member, fun _ => ⟨target, rfl⟩⟩

theorem Offers.replacement {listed : List String} {resolution : Resolution} (offers : Offers listed resolution)
    (target : String) (sure : resolution.replacement? = some target) : target ∈ listed := by
  unfold Resolution.replacement? at sure
  split at sure
  · rename_i only single
    cases sure
    exact offers.listed (single ▸ List.mem_singleton_self target)
  · cases sure

theorem misspelled_component_known (name target : String) (category : Category)
    (found : misspelledComponent? name category = some target) : isKnown target category = true := by
  obtain ⟨key, -, tables⟩ := List.exists_of_findSome?_eq_some found
  obtain ⟨table, -, entry⟩ := List.exists_of_findSome?_eq_some tables
  exact (Option.filter_eq_some_iff.mp entry).2

theorem ambiguous_components_unsure : ∀ entry ∈ ambiguousComponents, entry.2.confidence ≠ .high := by
  decide

theorem ambiguous_components_distinct : ∀ entry ∈ ambiguousComponents, entry.2.candidates.Nodup := by
  decide

theorem ambiguous_component_offers (name : String) (category : Category) (resolution : Resolution)
    (found : ambiguousComponent? name category = some resolution) : Offers (names category) resolution := by
  unfold ambiguousComponent? at found
  split at found
  · rename_i ambiguity listed
    have entry := lookup_entry _ _ _ listed
    have distinct := (ambiguous_components_distinct _ entry).filter (isKnown · category)
    have known : ambiguity.candidates.filter (isKnown · category) ⊆ names category := fun candidate member =>
      List.contains_iff_mem.mp (List.mem_filter.mp member).2
    split at found
    · cases found
    · rename_i filled
      cases found
      exact ⟨filled, distinct, known, fun high => absurd high (ambiguous_components_unsure _ entry)⟩
  · cases found

theorem suggested_offers (name : String) (category : Category) (filled : suggest name category ≠ []) :
    Offers (names category) { candidates := suggest name category, confidence := .low, evidence := .similarity } := by
  obtain ⟨distinct, -, listed⟩ := Name.nearest_candidates name (names category) false 3
  exact ⟨filled, distinct, listed, fun high => nomatch high⟩

theorem component_resolution_offers (name : String) (category : Category) (resolution : Resolution)
    (found : resolveComponent name category = some resolution) :
    isKnown name category = false ∧ Offers (names category) resolution := by
  unfold resolveComponent at found
  split at found
  · cases found
  · rename_i unknown
    refine ⟨Bool.eq_false_iff.mpr unknown, ?_⟩
    split at found
    · rename_i target misspelled
      cases found
      exact sure_offers _ target _ (List.contains_iff_mem.mp (misspelled_component_known name target category misspelled))
    · split at found
      · rename_i small
        cases found
        exact sure_offers _ _ _ (List.contains_iff_mem.mp small)
      · split at found
        · rename_i ambiguous
          cases found
          exact ambiguous_component_offers name category resolution ambiguous
        · split at found
          · cases found
          · rename_i filled
            cases found
            exact suggested_offers name category filled

-- What holds of the names that are wrong and of those to choose from, as one sees by going through them.
structure ResolutionTables (kind : CallKind) : Prop where
  targets : ∀ entry ∈ misspellings kind, entry.2 ∈ kind.names
  unsure : ∀ entry ∈ ambiguities kind, entry.2.confidence ≠ .high
  some_name : ∀ entry ∈ ambiguities kind, entry.2.candidates ≠ []
  distinct : ∀ entry ∈ ambiguities kind, entry.2.candidates.Nodup
  listed : ∀ entry ∈ ambiguities kind, entry.2.candidates ⊆ kind.names
  once : kind.names.Nodup

theorem resolution_tables (kind : CallKind) : ResolutionTables kind := by
  cases kind <;> refine ⟨?_, ?_, ?_, ?_, ?_, ?_⟩ <;> decide +kernel

theorem misspelled_call_listed (name target : String) (kind : CallKind)
    (found : misspelledCall? name kind = some target) : target ∈ kind.names := by
  unfold misspelledCall? at found
  split at found
  · rename_i listed
    cases found
    exact (resolution_tables kind).targets _ (lookup_entry _ _ _ listed)
  · obtain ⟨entry, search, rfl⟩ := Option.map_eq_some_iff.mp found
    exact (resolution_tables kind).targets entry (List.mem_of_find?_eq_some search)

theorem ambiguous_call_entry (name : String) (kind : CallKind) (ambiguity : Ambiguity)
    (found : ambiguousCall? name kind = some ambiguity) : ∃ key, (key, ambiguity) ∈ ambiguities kind := by
  unfold ambiguousCall? at found
  split at found
  · rename_i listed
    cases found
    exact ⟨name, lookup_entry _ _ _ listed⟩
  · exact ⟨lowered name, lookup_entry _ _ _ found⟩

theorem ambiguous_call_offers (name : String) (kind : CallKind) (ambiguity : Ambiguity)
    (found : ambiguousCall? name kind = some ambiguity) :
    Offers kind.names ⟨ambiguity.candidates, ambiguity.confidence, .ambiguity, ambiguity.reason⟩ := by
  obtain ⟨key, entry⟩ := ambiguous_call_entry name kind ambiguity found
  have tables := resolution_tables kind
  exact ⟨tables.some_name _ entry, tables.distinct _ entry, tables.listed _ entry,
    fun high => absurd high (tables.unsure _ entry)⟩

theorem same_beginning_offers (snake : String) (kind : CallKind) (filled : sameBeginning snake kind ≠ []) :
    Offers kind.names { candidates := sameBeginning snake kind, confidence := .low, evidence := .beginning } := by
  have few : (sameBeginning snake kind).Nodup ∧ sameBeginning snake kind ⊆ kind.names := by
    unfold sameBeginning
    simp only
    split
    · exact ⟨List.nodup_nil, List.nil_subset _⟩
    · refine ⟨?_, fun candidate member => ?_⟩
      · have hits := (resolution_tables kind).once.filter fun known => (snake.toList.take beginningLength).isPrefixOf known.toList
        exact ((List.mergeSort_perm _ _).nodup_iff.mpr hits).sublist (List.take_sublist _ _)
      · exact (List.mem_filter.mp (List.mem_mergeSort.mp (List.mem_of_mem_take member))).1
  exact ⟨filled, few.1, few.2, fun high => nomatch high⟩

def IsOtherKind (name : String) (kind : CallKind) (resolution : Resolution) : Prop :=
  resolution.candidates = [name] ∧ name ∈ kind.other.names ∧ resolution.confidence ≠ .high

theorem call_resolution_offers (name : String) (kind : CallKind) (resolution : Resolution)
    (found : resolveCall name kind = some resolution) :
    name ∉ kind.names ∧
      if resolution.evidence = .kind then IsOtherKind name kind resolution else Offers kind.names resolution := by
  unfold resolveCall at found
  simp only at found
  split at found
  · cases found
  · rename_i unlisted
    refine ⟨fun member => unlisted (List.contains_iff_mem.mpr member), ?_⟩
    split at found
    · rename_i target misspelled
      cases found
      exact sure_offers _ target _ (misspelled_call_listed name target kind misspelled)
    · split at found
      · rename_i snake
        cases found
        exact sure_offers _ _ _ (List.contains_iff_mem.mp (Bool.and_eq_true_iff.mp snake).2)
      · split at found
        · rename_i small
          cases found
          exact sure_offers _ _ _ (List.contains_iff_mem.mp small)
        · split at found
          · rename_i ambiguity ambiguous
            cases found
            exact ambiguous_call_offers name kind ambiguity ambiguous
          · split at found
            · rename_i other
              cases found
              exact ⟨rfl, List.contains_iff_mem.mp other, nofun⟩
            · split at found
              · cases found
              · rename_i filled
                cases found
                exact same_beginning_offers _ kind filled

theorem resolved_call_listed (name target : String) (kind : CallKind) (resolution : Resolution)
    (found : resolveCall name kind = some resolution) (sure : resolution.replacement? = some target) :
    target ∈ kind.names := by
  obtain ⟨-, offered⟩ := call_resolution_offers name kind resolution found
  split at offered
  · unfold Resolution.replacement? at sure
    split at sure
    · rename_i high _
      exact absurd high offered.2.2
    · cases sure
  · exact offered.replacement target sure

-- Every name that is offered for a wrong one is a real name, or, for a call of the other kind, the wrong name itself; one that
-- is put in place without asking is another name, and is not wrong.
theorem resolutions_final :
    (∀ name category resolution, resolveComponent name category = some resolution →
      isKnown name category = false ∧ Offers (names category) resolution ∧
        ∀ target, resolution.replacement? = some target → target ≠ name ∧ resolveComponent target category = none) ∧
    ∀ name kind resolution, resolveCall name kind = some resolution →
      name ∉ kind.names ∧
        (if resolution.evidence = .kind then IsOtherKind name kind resolution else Offers kind.names resolution) ∧
        ∀ target, resolution.replacement? = some target →
          target ∈ kind.names ∧ target ≠ name ∧ resolveCall target kind = none := by
  constructor
  · intro name category resolution found
    obtain ⟨unknown, offers⟩ := component_resolution_offers name category resolution found
    refine ⟨unknown, offers, fun target sure => ?_⟩
    have known : isKnown target category = true := List.contains_iff_mem.mpr (offers.replacement target sure)
    refine ⟨?_, if_pos known⟩
    rintro rfl
    rw [known] at unknown
    cases unknown
  · intro name kind resolution found
    obtain ⟨unlisted, offered⟩ := call_resolution_offers name kind resolution found
    refine ⟨unlisted, offered, fun target sure => ?_⟩
    have listed := resolved_call_listed name target kind resolution found sure
    refine ⟨listed, ?_, if_pos (List.contains_iff_mem.mpr listed)⟩
    rintro rfl
    exact unlisted listed

theorem resolutions_final_console :
    let component := Resolution.sure "stdout" .misspelling
    let call : Resolution := ⟨["now"], .low, .kind, "\"now\" is a function"⟩
    resolveComponent "Console" .output = some component ∧ component.replacement? = some "stdout" ∧
      resolveCall "now" .method = some call ∧ Offers outputNames component ∧ resolveComponent "stdout" .output = none ∧
      IsOtherKind "now" .method call := by
  intro component call
  have component_found : resolveComponent "Console" .output = some component := by decide +kernel
  have call_found : resolveCall "now" .method = some call := by decide +kernel
  obtain ⟨-, offers, final⟩ := resolutions_final.1 "Console" .output component component_found
  obtain ⟨-, other, -⟩ := resolutions_final.2 "now" .method call call_found
  exact ⟨component_found, rfl, call_found, offers, (final "stdout" rfl).2, other⟩

end Catalog

end PipelineLint
