import Mathlib.Data.List.Nodup
import PipelineLint.Proofs.CorrectedFields
import PipelineLint.Proofs.ValidDocuments

set_option autoImplicit false

namespace PipelineLint.Repair

open Document Validation

theorem unseen_still (above : List Level) (unseen : Unseen above) : Still above := by
  rcases unseen with rfl | ⟨owner, outer, rfl, one⟩
  · exact still_below_key "buffer" [] (by decide)
  · simp only [List.mem_cons, List.not_mem_nil, or_false] at one
    rcases one with rfl | rfl <;> exact still_in_list _ outer (by decide) (kept_never _ outer (by decide))

theorem inside_still (role : Role) (above : List Level) (fits : Fits role above) (name : String) (inner : Role)
    (found : role.inside? = some (name, inner)) : Still above := by
  cases role with
  | pipeline =>
      rw [show above = [.key "pipeline"] from fits]
      exact still_below_key "pipeline" [] (by decide)
  | held category type =>
      obtain ⟨outer, rfl, known⟩ := fits
      exact still_below_key type outer (Catalog.known_not_section type category known)
  | branch category =>
      obtain ⟨owner, outer, rfl, one⟩ := fits
      simp only [List.mem_cons, List.not_mem_nil, or_false] at one
      rcases one with rfl | rfl <;> exact still_in_list _ outer (by decide) (kept_never _ outer (by decide))
  | _ => cases found

theorem known_type_kept (category : Category) (above : List Level) (fits : Fits (.component category) above) (type : String)
    (known : Catalog.isKnown type category = true) : renaming? type above = none := by
  rcases fits with seen | unseen
  · by_cases metadata : Catalog.isMetadata type = true
    · exact renaming_metadata type above metadata
    · rw [renaming_category type above category seen metadata, Catalog.component_replacement_of_known type category known]
      rfl
  · exact unseen_still above unseen type

theorem renamed_to_known (category : Category) (above : List Level) (fits : Fits (.component category) above) (key name : String)
    (pass : Nat) (due : renaming? key above = some (pass, name)) : Catalog.isKnown name category = true := by
  obtain ⟨free, -⟩ := renaming_replacement key name above pass due
  rcases fits with seen | unseen
  · rw [renaming_category key above category seen (by simp [free])] at due
    obtain ⟨target, replaced, same⟩ := Option.map_eq_some_iff.mp due
    cases same
    exact Catalog.component_replacement_known key name category replaced
  · rw [unseen_still above unseen key] at due
    cases due

section Keys

variable (count : Nat) (above : List Level)

theorem key_after_metadata (name : String) (metadata : Catalog.isMetadata name = true) :
    keyAfter count above (.str name) = .str name :=
  congrArg Scalar.str (name_after_never count name above (renaming_metadata name above metadata))

theorem key_after_apart (entries : Entries) (apart : KeysApart (entriesAfter count above entries)) (name : String)
    (held : .str name ∈ Entries.keys entries) (kept : renaming? name above = none) :
    ∀ key ∈ Entries.keys entries, keyAfter count above key = .str name ↔ key = .str name := by
  have stays : keyAfter count above (.str name) = .str name :=
    congrArg Scalar.str (name_after_never count name above kept)
  have distinct := keys_apart_nodup _ apart
  rw [entries_after_keys] at distinct
  intro key member
  refine ⟨fun same => ?_, fun same => same ▸ stays⟩
  exact List.inj_on_of_nodup_map distinct member held (same.trans stays.symm)

theorem first_type_corrected (keys : List Scalar) (type : Option String) (found : Catalog.firstType? keys = .ok type)
    (kept : ∀ name, type = some name → renaming? name above = none) :
    Catalog.firstType? (keys.map (keyAfter count above)) = .ok type := by
  fun_induction Catalog.firstType? keys with
  | case1 => exact found
  | case2 key rest metadata ih =>
      rw [List.map_cons, key_after_metadata count above key metadata, Catalog.firstType?, if_pos metadata]
      exact ih found
  | case3 key rest no_metadata =>
      cases found
      have stays : keyAfter count above (.str key) = .str key :=
        congrArg Scalar.str (name_after_never count key above (kept key rfl))
      rw [List.map_cons, stays, Catalog.firstType?, if_neg no_metadata]
  | case4 => cases found

end Keys

theorem component_type_corrected (count : Nat) (above : List Level) (entries : Entries) (type : String)
    (typed : Catalog.componentType entries = .ok (some type)) (kept : renaming? type above = none) :
    Catalog.componentType (entriesAfter count above entries) = .ok (some type) := by
  unfold Catalog.componentType at typed ⊢
  rw [entries_after_keys]
  split at typed
  · cases typed
  · rename_i name found
    cases typed
    rw [first_type_corrected count above _ (some type) found fun name same => Option.some.inj same ▸ kept]
  · rename_i found
    rw [first_type_corrected count above _ none found (by simp)]
    split at typed
    · rename_i held
      have listed := (Entries.hasField_iff entries "processors").mp held
      have still : Entries.hasField (entriesAfter count above entries) "processors" = true := by
        rw [Entries.hasField_iff, entries_after_keys]
        exact List.mem_map.mpr ⟨_, listed, key_after_metadata count above "processors" (by decide)⟩
      simp only [still, if_true]
      exact typed
    · cases typed

-- Whatever the check takes a value for, it finds no error in a component in it when the keys are corrected and stay apart.
def Keeps (count : Nat) (value : Value) : Prop :=
  ∀ role above path, Fits role above → Distinct (valueAfter count above value) →
    slotsProblems (role.slots path value) = .ok [] → slotsProblems (role.slots path (valueAfter count above value)) = .ok []

theorem keeps_items (count : Nat) (role : Role) (above : List Level) (fits : Fits role (.item :: above)) (path : String)
    (items : List Value) (inner : ∀ item ∈ items, Keeps count item) (index : Nat)
    (distinct : DistinctItems (itemsAfter count above items))
    (nothing : slotsProblems (itemSlots role path index items) = .ok []) :
    slotsProblems (itemSlots role path index (itemsAfter count above items)) = .ok [] := by
  induction items generalizing index with
  | nil => exact nothing
  | cons item items ih =>
      obtain ⟨first, rest⟩ := List.forall_mem_cons.mp inner
      obtain ⟨here, others⟩ := distinct
      rw [itemSlots, slots_problems_none, List.forall_mem_append, ← slots_problems_none, ← slots_problems_none] at nothing
      rw [itemsAfter, itemSlots, slots_problems_none, List.forall_mem_append, ← slots_problems_none,
        ← slots_problems_none]
      exact ⟨first role _ _ fits here nothing.1, ih rest (index + 1) others nothing.2⟩

theorem no_mapping_problem (path : String) (category : Category) (value : Value) (no_mapping : value.entries? = none) :
    slotProblems ⟨path, category, value⟩ ≠ .ok [] := by
  intro nothing
  obtain ⟨entries, -, rfl, -⟩ := (slot_problems_none path category value).mp nothing
  cases no_mapping

theorem keeps_list (count : Nat) (items : List Value) (inner : ∀ item ∈ items, Keeps count item) : Keeps count (.list items) := by
  intro role above path fits distinct nothing
  by_cases component : ∃ category, role = .component category
  · obtain ⟨category, rfl⟩ := component
    exact absurd ((slots_problems_none _).mp nothing _ (List.mem_singleton_self _)) (no_mapping_problem path category _ rfl)
  · have no_component (category : Category) (same : role = .component category) : False := component ⟨category, same⟩
    rw [list_slots role path items no_component] at nothing
    rw [valueAfter, list_slots role path _ no_component]
    exact keeps_items count role.item above (fits_item role above fits) path items inner 0 distinct nothing

section Mapping

variable (count : Nat) (above : List Level) (entries : Entries) (inner : ∀ entry ∈ entries, Keeps count entry.2)
  (distinct : DistinctEntries (entriesAfter count above entries))

theorem distinct_entry (key : Scalar) (value : Value) (member : (key, value) ∈ entries)
    (distinct : DistinctEntries (entriesAfter count above entries)) :
    Distinct (valueAfter count (.key key.display :: above) value) := by
  rw [distinct_entries_iff, entries_after_map] at distinct
  exact distinct _ (List.mem_map_of_mem member)

theorem field_entry (name : String) (value : Value) (found : Entries.field? entries name = some value) :
    (.str name, value) ∈ entries := by
  obtain ⟨⟨key, held⟩, search, rfl⟩ := Option.map_eq_some_iff.mp found
  have same := List.find?_some search
  obtain rfl := (Scalar.sameKey_str_iff key name).mp same
  exact List.mem_of_find?_eq_some search

include inner distinct

theorem keeps_field (role : Role) (name path : String) (fits : Fits role (.key name :: above))
    (same : ∀ key ∈ Entries.keys entries, keyAfter count above key = .str name ↔ key = .str name)
    (nothing : slotsProblems (((Entries.field? entries name).map (role.slots path)).getD []) = .ok []) :
    slotsProblems (((Entries.field? (entriesAfter count above entries) name).map (role.slots path)).getD []) = .ok [] := by
  rw [field_corrected count above entries name same]
  cases found : Entries.field? entries name with
  | none => rfl
  | some value =>
      rw [found] at nothing
      have member := field_entry entries name value found
      exact inner _ member role _ path fits (distinct_entry count above entries _ value member distinct) nothing

theorem keeps_inside (role : Role) (no_component : ∀ category, role ≠ .component category) (path : String)
    (fits : Fits role above) (nothing : slotsProblems (role.slots path (.map entries)) = .ok []) :
    slotsProblems (role.slots path (.map (entriesAfter count above entries))) = .ok [] := by
  rw [map_slots role path _ no_component] at nothing ⊢
  split
  · rename_i name kind found
    simp only [found] at nothing
    refine keeps_field count above entries inner distinct kind name (keyed path name) (fits_inside role above fits name kind found)
      (fun key _ => ?_) nothing
    rw [key_after_still count (inside_still role above fits name kind found)]
  · rfl

omit inner distinct in
theorem fields_kept (category : Category) (type path : String) (value : Value) (kept : renaming? type above = none)
    (known : Catalog.isKnown type category = true) (nothing : fieldProblems path category type value = []) :
    fieldProblems path category type (valueAfter count (.key type :: above) value) = [] := by
  unfold fieldProblems at nothing ⊢
  split
  · rfl
  · rename_i plain
    rw [if_neg plain] at nothing
    split
    · rename_i spec specified
      simp only [specified] at nothing
      obtain rfl : spec.name = type := by simpa using List.find?_some specified
      exact component_problems_corrected count spec above (catalog_steady category spec (List.mem_of_find?_eq_some specified))
        (Catalog.known_not_section spec.name category known) kept path value nothing
    · rfl

theorem keeps_beside (category : Category) (path : String) (fits : Fits (.component category) above)
    (nothing : slotsProblems (slotsBeside path category entries) = .ok []) :
    slotsProblems (slotsBeside path category (entriesAfter count above entries)) = .ok [] := by
  have listed (has : hasProcessors category = true)
      (nothing : slotsProblems (fieldSlots path .processor entries "processors") = .ok []) :
      slotsProblems (fieldSlots path .processor (entriesAfter count above entries) "processors") = .ok [] := by
    rw [field_slots_eq] at nothing ⊢
    refine keeps_field count above entries inner distinct (.components .processor) "processors" (keyed path "processors")
      (fits_processors "processors" above rfl) (fun key _ => ?_) nothing
    refine key_after_iff count above "processors" (renaming_metadata _ above (by decide)) (fun other pass due => ?_) key
    have known := renamed_to_known category above fits other "processors" pass due
    rw [processors_unknown category has] at known
    cases known
  cases category with
  | input => exact listed rfl nothing
  | output => exact listed rfl nothing
  | _ => rfl

theorem keeps_component (category : Category) (path : String) (fits : Fits (.component category) above)
    (apart : KeysApart (entriesAfter count above entries)) (nothing : slotProblems ⟨path, category, .map entries⟩ = .ok []) :
    slotProblems ⟨path, category, .map (entriesAfter count above entries)⟩ = .ok [] := by
  obtain ⟨same, type, equal, ⟨typed, known⟩, fields, beside, within⟩ := (slot_problems_none path category _).mp nothing
  obtain rfl : entries = same := Value.map.inj equal
  have kept := known_type_kept category above fits type known
  obtain ⟨value, held⟩ := type_held entries type typed
  have listed : .str type ∈ Entries.keys entries := (Entries.hasField_iff entries type).mp (Option.isSome_iff_exists.mpr ⟨value, held⟩)
  have alone := key_after_apart count above entries apart type listed kept
  have member := field_entry entries type value held
  have found : Entries.fieldOrNull (entriesAfter count above entries) type = valueAfter count (.key type :: above) value := by
    rw [Entries.fieldOrNull, field_corrected count above entries type alone, held]
    rfl
  have given : Entries.fieldOrNull entries type = value := by rw [Entries.fieldOrNull, held]; rfl
  rw [given] at fields within
  refine (slot_problems_none path category _).mpr ⟨_, type, rfl,
    ⟨component_type_corrected count above entries type typed kept, known⟩, ?_, ?_, ?_⟩
  · rw [found]
    exact fields_kept count above category type _ value kept known fields
  · exact (slots_problems_none _).mp
      (keeps_beside count above entries inner distinct category path fits ((slots_problems_none _).mpr beside))
  · rw [found]
    exact (slots_problems_none _).mp (inner _ member (.held category type) (.key type :: above) (keyed path type)
      ⟨above, rfl, known⟩ (distinct_entry count above entries _ value member distinct) ((slots_problems_none _).mpr within))

end Mapping

theorem keeps_map (count : Nat) (entries : Entries) (inner : ∀ entry ∈ entries, Keeps count entry.2) : Keeps count (.map entries) := by
  intro role above path fits ⟨apart, distinct⟩ nothing
  by_cases component : ∃ category, role = .component category
  · obtain ⟨category, rfl⟩ := component
    refine (slots_problems_none _).mpr (List.forall_mem_singleton.mpr ?_)
    exact keeps_component count above entries inner distinct category path fits apart
      ((slots_problems_none _).mp nothing _ (List.mem_singleton_self _))
  · exact keeps_inside count above entries inner distinct role (fun category same => component ⟨category, same⟩) path fits nothing

theorem writable_keeps (count : Nat) (value : Value) (writable : Writable value) : Keeps count value := by
  induction writable with
  | inline value text inline =>
      cases inline with
      | noItems => exact keeps_list count [] (by simp)
      | @items items _ listed =>
          refine keeps_list count items fun item member => ?_
          obtain ⟨s, rfl⟩ := flow_items_scalars _ _ listed item member
          exact fun _ _ _ _ _ nothing => nothing
      | noEntries => exact keeps_map count [] (by simp)
      | _ => exact fun _ _ _ _ _ nothing => nothing
  | text s mark lines _ => exact fun _ _ _ _ _ nothing => nothing
  | list items _ _ keeps => exact keeps_list count items keeps
  | map entries _ _ _ keeps => exact keeps_map count entries keeps

end PipelineLint.Repair
