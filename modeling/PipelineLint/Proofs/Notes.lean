import Mathlib.Data.List.Forall2
import PipelineLint.Proofs.ComponentPlaces
import PipelineLint.Proofs.SectionTypes

set_option autoImplicit false

namespace PipelineLint

open Validation

namespace Validation

-- A key that is no type and no field of a component, with a value that holds no expression.
structure IsNote (key : String) (note : Scalar) : Prop where
  key : key = "description" ∨ key.toList.head? = some '_'
  plain : ∀ text, note = .str text → Text.occursIn Expression.opener text.toList = false

theorem note_key_apart (key : String) (note : Scalar) (noted : IsNote key note) (name : String)
    (apart : name ≠ "description" ∧ name.toList.head? ≠ some '_') : name ≠ key := by
  rintro rfl
  exact noted.key.elim apart.1 apart.2

theorem note_metadata (key : String) (note : Scalar) (noted : IsNote key note) : Catalog.isMetadata key = true := by
  rcases noted.key with rfl | lead
  · decide
  · simp [Catalog.isMetadata, lead]

/-! ## Texts -/

structure SameTexts (one other : Value) : Prop where
  held : ∀ key path, heldFindings key path other = heldFindings key path one
  no_text : one.text? = none
  also_no_text : other.text? = none

theorem findings_held (path : String) (value : Value) (no_text : value.text? = none) :
    findings path value = heldFindings .null path value := by
  cases value with
  | scalar s =>
      cases s with
      | str text => cases no_text
      | _ => rfl
  | list items => rfl
  | map entries => rfl

theorem item_findings_same (path : String) (index : Nat) (front back : List Value) (one other : Value)
    (same : SameTexts one other) :
    itemFindings path index (front ++ other :: back) = itemFindings path index (front ++ one :: back) := by
  induction front generalizing index with
  | nil =>
      simp only [List.nil_append, itemFindings]
      rw [findings_held _ other same.also_no_text, findings_held _ one same.no_text, same.held]
  | cons item front ih => simp only [List.cons_append, itemFindings, ih]

theorem among_texts (among : Among) (one other : Value) (same : SameTexts one other) :
    SameTexts (among.fill one) (among.fill other) :=
  ⟨fun _ path => item_findings_same path 0 among.front among.back one other same, rfl, rfl⟩

theorem entry_findings_append (hasQuery : Bool) (path : String) (front back : Entries) :
    entryFindings hasQuery path (front ++ back) = entryFindings hasQuery path front ++ entryFindings hasQuery path back := by
  induction front with
  | nil => rfl
  | cons entry front ih =>
      obtain ⟨key, value⟩ := entry
      rw [List.cons_append, entry_findings_cons, entry_findings_cons, ih, List.append_assoc]

theorem query_findings_same (path : String) (one other : Entries)
    (same : Entries.field? other queryKey = Entries.field? one queryKey) :
    queryFindings path other = queryFindings path one := by
  rw [queryFindings, queryFindings, same]

theorem query_findings_no_text (path : String) (entries : Entries) (value : Value) (no_text : value.text? = none)
    (found : Entries.field? entries queryKey = some value) : queryFindings path entries = [] := by
  rw [queryFindings, found]
  cases value with
  | scalar s =>
      cases s with
      | str text => cases no_text
      | _ => rfl
  | _ => rfl

theorem around_other {name : String} (around : Around name) (one other : Value) (field : String) (apart : field ≠ name) :
    Entries.field? (around.fill other) field = Entries.field? (around.fill one) field := by
  rw [Around.fill, Around.fill, other_field _ _ name field other apart, other_field _ _ name field one apart]

theorem around_value_other {name : String} (around : Around name) (one other : Value) (field : String) (apart : field ≠ name) :
    Entries.fieldOrNull (around.fill other) field = Entries.fieldOrNull (around.fill one) field := by
  rw [Entries.fieldOrNull, Entries.fieldOrNull, around_other around one other field apart]

theorem around_texts {name : String} (around : Around name) (one other : Value) (same : SameTexts one other) :
    SameTexts (.map (around.fill one)) (.map (around.fill other)) := by
  refine ⟨fun key path => ?_, rfl, rfl⟩
  have queries : queryFindings path (around.fill other) = queryFindings path (around.fill one) := by
    by_cases named : name = queryKey
    · subst named
      rw [query_findings_no_text path _ one same.no_text (around_field around one),
        query_findings_no_text path _ other same.also_no_text (around_field around other)]
    · exact query_findings_same path _ _ (around_other around one other queryKey (Ne.symm named))
  rw [held_findings_map, held_findings_map, mappingFindings, mappingFindings, queries, Around.fill, Around.fill,
    entry_findings_append, entry_findings_append, entry_findings_cons, entry_findings_cons, same.held]

theorem note_findings (key : String) (note : Scalar) (noted : IsNote key note) (path : String) :
    heldFindings (.str key) path (.scalar note) = [] := by
  cases note with
  | str text =>
      have expression : isOneOf expressionKeys (.str key) = false := by
        have apart : ∀ name ∈ expressionKeys, name ≠ "description" ∧ name.toList.head? ≠ some '_' := by decide +kernel
        cases listed : isOneOf expressionKeys (.str key) with
        | false => rfl
        | true => exact absurd rfl (note_key_apart key _ noted key (apart key (List.contains_iff_mem.mp listed)))
      simp [heldFindings, expression, textFindings, noted.plain text rfl]
  | _ => rfl

theorem note_texts (key : String) (note : Scalar) (noted : IsNote key note) (front back : Entries) :
    SameTexts (.map (front ++ back)) (.map (front ++ (.str key, .scalar note) :: back)) := by
  refine ⟨fun held path => ?_, rfl, rfl⟩
  have queries : queryFindings path (front ++ (.str key, .scalar note) :: back) = queryFindings path (front ++ back) :=
    query_findings_same path _ _ (other_field front back key queryKey _ (note_key_apart key note noted _ (by decide)))
  rw [held_findings_map, held_findings_map, mappingFindings, mappingFindings, queries, entry_findings_append,
    entry_findings_append, entry_findings_cons, note_findings key note noted, ite_self, List.nil_append]

/-! ## Components -/

def SameSlots (one other : List Slot) : Prop :=
  List.Forall₂ (fun first second => slotProblems second = slotProblems first) one other

theorem same_slots_refl (slots : List Slot) : SameSlots slots slots :=
  List.forall₂_same.mpr fun _ _ => rfl

theorem slots_problems_same (one other : List Slot) (same : SameSlots one other) : slotsProblems other = slotsProblems one := by
  induction same with
  | nil => rfl
  | cons first _ ih => rw [slotsProblems, slotsProblems, first, ih]

-- Mappings that are the same to the check of components of a category.
structure Alike (category : Category) (one other : Entries) : Prop where
  problems : ∀ path, slotProblems ⟨path, category, .map other⟩ = slotProblems ⟨path, category, .map one⟩
  texts : SameTexts (.map one) (.map other)
  label : Entries.fieldOrNull other "label" = Entries.fieldOrNull one "label"

theorem slot_problems_same (path : String) (category : Category) (one other : Entries)
    (types : Catalog.componentType other = Catalog.componentType one)
    (beside : SameSlots (slotsBeside path category one) (slotsBeside path category other))
    (within : ∀ type, Catalog.componentType one = .ok (some type) → Catalog.isKnown type category = true →
      SameSlots (slotsWithin (keyed path type) category type (Entries.fieldOrNull one type))
          (slotsWithin (keyed path type) category type (Entries.fieldOrNull other type)) ∧
        fieldProblems (keyed path type) category type (Entries.fieldOrNull other type) =
          fieldProblems (keyed path type) category type (Entries.fieldOrNull one type)) :
    slotProblems ⟨path, category, .map other⟩ = slotProblems ⟨path, category, .map one⟩ := by
  cases typed : Catalog.componentType one with
  | error fault => rw [slotProblems, slotProblems]; simp only [types, typed]
  | ok found =>
      cases found with
      | none => rw [slotProblems, slotProblems]; simp only [types, typed]
      | some type =>
          rw [slot_problems_typed _ _ _ type typed, slot_problems_typed _ _ _ type (types.trans typed), componentAs,
            componentAs, slots_problems_same _ _ beside]
          by_cases known : Catalog.isKnown type category = true
          · obtain ⟨slots, fields⟩ := within type typed known
            simp only [known, if_true, slots_problems_same _ _ slots, fields]
          · simp only [known, Bool.false_eq_true, if_false]

theorem first_type_skips (front back : List Scalar) (key : String) (metadata : Catalog.isMetadata key = true) :
    Catalog.firstType? (front ++ .str key :: back) = Catalog.firstType? (front ++ back) := by
  induction front with
  | nil => rw [List.nil_append, Catalog.firstType?, if_pos metadata, List.nil_append]
  | cons name front ih => cases name <;> simp only [List.cons_append, Catalog.firstType?, ih]

theorem component_type_skips (front back : Entries) (key : String) (held : Value) (metadata : Catalog.isMetadata key = true)
    (apart : "processors" ≠ key) :
    Catalog.componentType (front ++ (.str key, held) :: back) = Catalog.componentType (front ++ back) := by
  have keys : Catalog.firstType? (Entries.keys (front ++ (.str key, held) :: back)) =
      Catalog.firstType? (Entries.keys (front ++ back)) := by
    simp only [Entries.keys, List.map_append, List.map_cons]
    exact first_type_skips _ _ key metadata
  have listed : Entries.hasField (front ++ (.str key, held) :: back) "processors" =
      Entries.hasField (front ++ back) "processors" := by
    rw [Entries.hasField, Entries.hasField, other_field front back key _ held apart]
  rw [Catalog.componentType, Catalog.componentType, keys, listed]

theorem note_alike (category : Category) (key : String) (note : Scalar) (noted : IsNote key note) (front back : Entries) :
    Alike category (front ++ back) (front ++ (.str key, .scalar note) :: back) := by
  have field (name : String) (apart : name ≠ key) := other_field front back key name (.scalar note) apart
  have value (name : String) (apart : name ≠ key) :
      Entries.fieldOrNull (front ++ (.str key, .scalar note) :: back) name = Entries.fieldOrNull (front ++ back) name := by
    rw [Entries.fieldOrNull, Entries.fieldOrNull, field name apart]
  have processors_apart := note_key_apart key note noted "processors" (by decide)
  have types := component_type_skips front back key (.scalar note) (note_metadata key note noted) processors_apart
  refine ⟨fun path => slot_problems_same path category _ _ types ?_ fun type typed _ => ?_,
    note_texts key note noted front back, ?_⟩
  · have beside : slotsBeside path category (front ++ (.str key, .scalar note) :: back) =
        slotsBeside path category (front ++ back) := by
      simp only [slotsBeside, fieldSlots, field "processors" processors_apart]
    rw [beside]
    exact same_slots_refl _
  · have apart : type ≠ key := by
      rintro rfl
      rcases Repair.component_type_name _ type typed with own | same
      · rw [note_metadata type note noted] at own
        cases own
      · exact processors_apart same.symm
    rw [value type apart]
    exact ⟨same_slots_refl _, rfl⟩
  · exact value "label" (note_key_apart key note noted _ (by decide))

/-! ## Values with components in them -/

structure HeldAlike (category : Category) (type : String) (one other : Value) : Prop where
  slots : ∀ path, SameSlots (slotsWithin path category type one) (slotsWithin path category type other)
  fields : ∀ path, fieldProblems path category type other = fieldProblems path category type one
  texts : SameTexts one other

theorem numbered_related (related : Slot → Slot → Prop) (itself : ∀ slot, related slot slot) (category : Category)
    (one other : Value) (here : ∀ path, related ⟨path, category, one⟩ ⟨path, category, other⟩) (path : String) (index : Nat)
    (front back : List Value) :
    List.Forall₂ related (numbered path category index (front ++ one :: back))
      (numbered path category index (front ++ other :: back)) := by
  induction front generalizing index with
  | nil => exact .cons (here _) (List.forall₂_same.mpr fun slot _ => itself slot)
  | cons item front ih => exact .cons (itself _) (ih (index + 1))

section

variable {category : Category} {one other : Entries} (same : Alike category one other)

include same

theorem list_slots_same (path : String) (among : Among) :
    SameSlots (listSlots path category (among.fill (.map one))) (listSlots path category (among.fill (.map other))) :=
  numbered_related (fun first second => slotProblems second = slotProblems first) (fun _ => rfl) category _ _ same.problems
    path 0 among.front among.back

theorem field_slots_same (path name : String) (around : Around name) (among : Among) :
    SameSlots (fieldSlots path category (around.fill (among.fill (.map one))) name)
      (fieldSlots path category (around.fill (among.fill (.map other))) name) := by
  rw [fieldSlots, fieldSlots, around_field, around_field]
  exact list_slots_same same (keyed path name) among

end

theorem case_slots_same (category part : Category) (path inner : String) (fill : Value → Value)
    (stands : InCase category path fill inner part) (one other : Entries) (same : Alike part one other) (here : String) :
    SameSlots (caseSlots here category (fill (.map one))) (caseSlots here category (fill (.map other))) := by
  cases stands with
  | processors _ around among => exact field_slots_same same here "processors" around among
  | output _ around =>
      simp only [caseSlots, around_field]
      exact .cons (same.problems _) .nil

theorem case_texts (category part : Category) (path inner : String) (fill : Value → Value)
    (stands : InCase category path fill inner part) (one other : Value) (same : SameTexts one other) :
    SameTexts (fill one) (fill other) := by
  cases stands with
  | processors _ around among => exact around_texts around _ _ (among_texts among _ _ same)
  | output _ around => exact around_texts around _ _ same

theorem cases_slots_same (category : Category) (path : String) (index : Nat) (front back : List Value) (one other : Value)
    (same : ∀ path, SameSlots (caseSlots path category one) (caseSlots path category other)) :
    SameSlots (casesSlots path category index (front ++ one :: back))
      (casesSlots path category index (front ++ other :: back)) := by
  induction front generalizing index with
  | nil => exact List.rel_append (same _) (same_slots_refl _)
  | cons item front ih => exact List.rel_append (same_slots_refl _) (ih (index + 1))

/-! ## Fields with components in them -/

def isClosed (spec : FieldSpec) : Bool :=
  spec.kind != .duration && spec.properties.isEmpty

def isShallow (spec : FieldSpec) : Bool :=
  isClosed spec && spec.items.all isClosed

def SameShape : Value → Value → Prop
  | .list _, .list _ => True
  | .map _, .map _ => True
  | _, _ => False

theorem own_problem_shape (spec : FieldSpec) (no_duration : spec.kind ≠ .duration) (path name : String) (one other : Value)
    (shape : SameShape one other) : ownProblem? other spec path name = ownProblem? one spec path name := by
  have kinds : kindProblem? other spec path name = kindProblem? one spec path name := by
    unfold kindProblem?
    cases kind : spec.kind <;> cases one <;> cases other <;> first
      | exact absurd shape id
      | exact absurd kind no_duration
      | rfl
  have choices : choiceProblem? other spec path name = choiceProblem? one spec path name := by
    cases one <;> cases other <;> first
      | exact absurd shape id
      | simp only [choiceProblem?_list, choiceProblem?_map]
  rw [ownProblem?, ownProblem?, kinds, choices]

theorem closed_problems (spec : FieldSpec) (closed : isClosed spec = true) (path name : String) (one other : Entries) :
    valueProblems spec path name (.map other) = valueProblems spec path name (.map one) := by
  obtain ⟨no_duration, empty⟩ := Bool.and_eq_true_iff.mp closed
  have own := own_problem_shape spec (bne_iff_ne.mp no_duration) path name (.map one) (.map other) trivial
  unfold valueProblems
  rw [List.isEmpty_iff.mp empty]
  cases spec.kind <;> simp only [own]

theorem item_problems_same (spec : FieldSpec) (closed : isClosed spec = true) (path name : String) (index : Nat)
    (front back : List Value) (one other : Entries) :
    itemProblems spec path name index (front ++ .map other :: back) =
      itemProblems spec path name index (front ++ .map one :: back) := by
  induction front generalizing index with
  | nil => simp only [List.nil_append, itemProblems, closed_problems spec closed _ _ one other]
  | cons item front ih => simp only [List.cons_append, itemProblems, ih]

theorem shallow_problems (spec : FieldSpec) (shallow : isShallow spec = true) (path name : String) (among : Among)
    (one other : Entries) :
    valueProblems spec path name (among.fill (.map other)) = valueProblems spec path name (among.fill (.map one)) := by
  obtain ⟨closed, items⟩ := Bool.and_eq_true_iff.mp shallow
  have own := own_problem_shape spec (bne_iff_ne.mp (Bool.and_eq_true_iff.mp closed).1) path name (among.fill (.map one))
    (among.fill (.map other)) trivial
  unfold Among.fill at own ⊢
  unfold valueProblems
  cases listed : spec.items with
  | none => cases spec.kind <;> simp only [own]
  | some itemSpec =>
      rw [listed] at items
      have inside := item_problems_same itemSpec items path name 0 among.front among.back one other
      cases spec.kind <;> simp only [own, inside]

theorem entry_problems_append (fields : List (String × FieldSpec)) (path : String) (front back : Entries) :
    entryProblems fields path (front ++ back) = entryProblems fields path front ++ entryProblems fields path back := by
  induction front with
  | nil => rfl
  | cons entry front ih =>
      obtain ⟨key, value⟩ := entry
      cases key <;> simp only [List.cons_append, entryProblems, ih, List.append_assoc]

theorem mapping_problems_same (spec : ComponentSpec) (name : String) (path : String) (around : Around name) (one other : Value)
    (kept : ∀ field, spec.field? name = some field →
      ∀ path name, valueProblems field path name other = valueProblems field path name one) :
    mappingProblems spec path (around.fill other) = mappingProblems spec path (around.fill one) := by
  have keys : Entries.keys (around.fill other) = Entries.keys (around.fill one) := by rw [around_keys, around_keys]
  have entries : entryProblems spec.fields path (around.fill other) = entryProblems spec.fields path (around.fill one) := by
    simp only [Around.fill, entry_problems_append, entryProblems]
    cases known : spec.fields.lookup name with
    | none => rfl
    | some field => simp only [kept field known]
  rw [mappingProblems, mappingProblems, keys, entries, has_field_keys _ _ keys]

theorem processors_shallow : ∀ spec ∈ Catalog.processors, Catalog.wrappers.contains spec.name = false →
    spec.scalarField?.all isClosed = true ∧ (spec.field? "processors").all isShallow = true := by
  decide +kernel

theorem processor_fields_same (type path : String) (plain : Catalog.wrappers.contains type = false)
    (around : Around "processors") (among : Among) (one other : Entries) :
    fieldProblems path .processor type (.map (around.fill (among.fill (.map other)))) =
      fieldProblems path .processor type (.map (around.fill (among.fill (.map one)))) := by
  simp only [fieldProblems, plain, Bool.false_eq_true, if_false]
  cases found : Catalog.specIn? type .processor with
  | none => rfl
  | some spec =>
      have named : spec.name = type := by simpa using List.find?_some found
      obtain ⟨bare, field⟩ := processors_shallow spec (List.mem_of_find?_eq_some found) (named ▸ plain)
      simp only [componentProblems]
      cases scalar : spec.scalarField? with
      | some only =>
          rw [scalar] at bare
          exact closed_problems only bare path spec.name _ _
      | none =>
          refine mapping_problems_same spec "processors" path around _ _ fun processors known path name => ?_
          rw [known] at field
          exact shallow_problems processors field path name among one other

theorem lists_undocumented : ∀ type ∈ processorLists, Catalog.wrappers.contains type = false →
    Catalog.specIn? type .processor = none := by
  decide +kernel

theorem value_alike (category part : Category) (type path inner : String) (fill : Value → Value)
    (stands : InValue category type path fill inner part) (one other : Entries) (same : Alike part one other) :
    HeldAlike category type (fill (.map one)) (fill (.map other)) := by
  cases stands with
  | attempt among tried =>
      rcases tried with rfl | rfl <;>
        exact ⟨fun here => list_slots_same same here among, fun _ => rfl, among_texts among _ _ same.texts⟩
  | fallback among named =>
      subst named
      exact ⟨fun here => list_slots_same same here among, fun _ => rfl, among_texts among _ _ same.texts⟩
  | broker around among named =>
      subst named
      exact ⟨fun here => field_slots_same same here _ around among, fun _ => rfl,
        around_texts around _ _ (among_texts among _ _ same.texts)⟩
  | case among fill _ _ named stands =>
      subst named
      refine ⟨fun here => ?_, fun _ => rfl, among_texts among _ _ (case_texts _ _ _ _ fill stands _ _ same.texts)⟩
      exact cases_slots_same category here 0 among.front among.back _ _ (case_slots_same _ _ _ _ fill stands one other same)
  | cases around among fill _ _ named stands =>
      subst named
      refine ⟨fun here => ?_, fun _ => rfl,
        around_texts around _ _ (among_texts among _ _ (case_texts _ _ _ _ fill stands _ _ same.texts))⟩
      have slots := cases_slots_same category (keyed here "cases") 0 among.front among.back _ _
        (case_slots_same _ _ _ _ fill stands one other same)
      have switch (value : Value) : slotsWithin here category "switch" value = switchSlots here category value := rfl
      simpa only [switch, switchSlots, around_field, Among.fill] using slots
  | processors among plain processor listed =>
      subst processor
      refine ⟨fun here => ?_, fun here => ?_, among_texts among _ _ same.texts⟩
      · simp only [slotsWithin, plain, Bool.false_eq_true, if_false, plainSlots, if_true, Among.fill, listed]
        exact list_slots_same same here among
      · rw [fieldProblems, fieldProblems, lists_undocumented type (List.contains_iff_mem.mp listed) plain]
  | field around among plain processor =>
      subst processor
      refine ⟨fun here => ?_, fun here => processor_fields_same type here plain around among one other,
        around_texts around _ _ (among_texts among _ _ same.texts)⟩
      simp only [slotsWithin, plain, Bool.false_eq_true, if_false, plainSlots, if_true]
      exact field_slots_same same here "processors" around among

/-! ## Components with components in them -/

theorem processors_no_type (category : Category) (owner : category = .input ∨ category = .output) (type : String)
    (known : Catalog.isKnown type category = true) : type ≠ "processors" := by
  rintro rfl
  rcases owner with rfl | rfl <;> exact absurd known (by decide +kernel)

theorem beside_alike (category : Category) (owner : category = .input ∨ category = .output) (around : Around "processors")
    (among : Among) (one other : Entries) (same : Alike .processor one other) :
    Alike category (around.fill (among.fill (.map one))) (around.fill (among.fill (.map other))) := by
  refine ⟨fun path => ?_, around_texts around _ _ (among_texts among _ _ same.texts), ?_⟩
  · refine slot_problems_same path category _ _ (around_type around _ _) ?_ fun type _ known => ?_
    · have slots := field_slots_same same path "processors" around among
      rcases owner with rfl | rfl <;> exact slots
    · rw [around_value_other around _ _ type (processors_no_type category owner type known)]
      exact ⟨same_slots_refl _, rfl⟩
  · exact around_value_other around _ _ "label" (by decide)

theorem within_alike (category : Category) (type : String) (around : Around type) (one other : Value)
    (typed : Catalog.componentType (around.fill one) = .ok (some type)) (known : Catalog.isKnown type category = true)
    (same : HeldAlike category type one other) : Alike category (around.fill one) (around.fill other) := by
  have own := Repair.component_type_name _ type typed
  refine ⟨fun path => ?_, around_texts around _ _ same.texts, ?_⟩
  · refine slot_problems_same path category _ _ (around_type around _ _) ?_ fun found also _ => ?_
    · have beside : slotsBeside path category (around.fill other) = slotsBeside path category (around.fill one) := by
        by_cases owner : category = .input ∨ category = .output
        · have apart := processors_no_type category owner type known
          simp only [slotsBeside, fieldSlots, around_other around one other "processors" apart.symm]
        · cases category <;> first | rfl | exact absurd (by simp) owner
      rw [beside]
      exact same_slots_refl _
    · obtain rfl : type = found := Option.some.inj (Except.ok.inj (typed.symm.trans also))
      have held (value : Value) : Entries.fieldOrNull (around.fill value) type = value := by
        rw [Entries.fieldOrNull, around_field, Option.getD_some]
      rw [held, held]
      exact ⟨same.slots _, same.fields _⟩
  · have apart : "label" ≠ type := by
      rintro rfl
      exact absurd own (by simp [Repair.IsType, Catalog.isMetadata, Catalog.metadataKeys])
    exact around_value_other around _ _ "label" apart

/-! ## Documents -/

structure TopAlike {name : String} (around : Around name) (one other : Value) : Prop where
  texts : SameTexts one other
  no_type : "type" ≠ name
  no_buffer : "buffer" ≠ name
  sections : ∀ category, category.name = name →
    sectionProblems (around.fill other) category = sectionProblems (around.fill one) category
  outline : "pipeline" = name → pipelineProblems other = pipelineProblems one
  processors : "pipeline" = name →
    slotsProblems (processorSlots (around.fill other)) = slotsProblems (processorSlots (around.fill one))
  resources : ∀ category, (name, category) ∈ resourceSections →
    resourceSectionProblems (around.fill other) name category = resourceSectionProblems (around.fill one) name category

section

variable {name : String} {around : Around name} {one other : Value} (same : TopAlike around one other)

include same

theorem foreign_problems_same : foreignProblems (around.fill other) = foreignProblems (around.fill one) := by
  have fields := has_field_keys (around.fill one) (around.fill other) (by rw [around_keys, around_keys])
  have outline : pipelineProblems (Entries.fieldOrNull (around.fill other) "pipeline") =
      pipelineProblems (Entries.fieldOrNull (around.fill one) "pipeline") := by
    by_cases named : "pipeline" = name
    · subst named
      simpa only [Entries.fieldOrNull, around_field, Option.getD_some] using same.outline rfl
    · rw [around_value_other around one other "pipeline" named]
  simp only [foreignProblems, fields, around_value_other around one other "type" same.no_type, outline]

theorem section_problems_same (category : Category) :
    sectionProblems (around.fill other) category = sectionProblems (around.fill one) category := by
  by_cases named : category.name = name
  · exact same.sections category named
  · simp only [sectionProblems, around_other around one other _ named]

theorem processor_problems_same :
    slotsProblems (processorSlots (around.fill other)) = slotsProblems (processorSlots (around.fill one)) := by
  by_cases named : "pipeline" = name
  · exact same.processors named
  · rw [processorSlots, processorSlots, around_value_other around one other "pipeline" named]

theorem resource_problems_same : allResourceProblems (around.fill other) = allResourceProblems (around.fill one) := by
  have each : resourceSections.mapM (fun entry => resourceSectionProblems (around.fill other) entry.1 entry.2) =
      resourceSections.mapM (fun entry => resourceSectionProblems (around.fill one) entry.1 entry.2) := by
    refine mapM_same _ _ _ _ (List.forall₂_same.mpr fun entry member => ?_)
    obtain ⟨field, category⟩ := entry
    by_cases named : field = name
    · subst named
      exact same.resources category member
    · simp only [resourceSectionProblems, around_value_other around one other field named]
  exact congrArg (Except.map List.flatten) each

theorem expression_problems_same : expressionProblems (around.fill other) = expressionProblems (around.fill one) := by
  rw [expressionProblems, expressionProblems, findings_held "" _ rfl, findings_held "" _ rfl,
    (around_texts around one other same.texts).held]

theorem document_problems_same : documentProblems (around.fill other) = documentProblems (around.fill one) := by
  simp only [documentProblems, foreign_problems_same same, section_problems_same same, processor_problems_same same,
    around_value_other around one other "buffer" same.no_buffer, resource_problems_same same, expression_problems_same same]

theorem diagnosis_same :
    diagnose { compatibility := false } (.map (around.fill other)) =
      diagnose { compatibility := false } (.map (around.fill one)) := by
  have keys : Entries.keys (around.fill other) = Entries.keys (around.fill one) := by rw [around_keys, around_keys]
  have warnings : unknownKeyWarnings (around.fill other) = unknownKeyWarnings (around.fill one) := by
    simp only [unknownKeyWarnings, reportedKeys, keys, has_field_keys _ _ keys]
  simp only [diagnose, document_problems_same same, warnings, advice]
  rfl

end

theorem section_alike (category : Category) (section_ : category = .input ∨ category = .output) (around : Around category.name)
    (one other : Entries) (same : Alike category one other) : TopAlike around (.map one) (.map other) := by
  refine ⟨same.texts, ?_, ?_, fun also named => ?_, ?_, ?_, ?_⟩
  · rcases section_ with rfl | rfl <;> decide
  · rcases section_ with rfl | rfl <;> decide
  · obtain rfl := Category.name_injective named
    simp only [sectionProblems, around_field, same.problems]
  · rcases section_ with rfl | rfl <;> exact fun named => absurd named (by decide)
  · rcases section_ with rfl | rfl <;> exact fun named => absurd named (by decide)
  · rcases section_ with rfl | rfl <;> exact fun also listed => absurd listed (by cases also <;> decide)

theorem processor_alike (around : Around "pipeline") (inner : Around "processors") (among : Among) (one other : Entries)
    (same : Alike .processor one other) :
    TopAlike around (.map (inner.fill (among.fill (.map one)))) (.map (inner.fill (among.fill (.map other)))) := by
  refine ⟨around_texts inner _ _ (among_texts among _ _ same.texts), by decide, by decide, fun also named => ?_, fun _ => ?_,
    fun _ => ?_, fun also listed => absurd listed (by cases also <;> decide)⟩
  · cases also <;> exact absurd named (by decide)
  · simp only [pipelineProblems, around_keys]
  · have slots := slots_problems_same _ _ (field_slots_same same "pipeline" "processors" inner among)
    simpa only [processorSlots, Entries.fieldOrNull, around_field, Option.getD_some] using slots

theorem resource_alike (name : String) (category : Category) (listed : (name, category) ∈ resourceSections)
    (around : Around name) (among : Among) (one other : Entries) (same : Alike category one other) :
    TopAlike around (among.fill (.map one)) (among.fill (.map other)) := by
  have names : ∀ entry ∈ resourceSections, entry.1 ∉ ["type", "buffer", "pipeline"] ∧
      (∀ category ∈ Category.all, category.name ≠ entry.1) ∧
        ∀ also ∈ resourceSections, also.1 = entry.1 → also.2 = entry.2 := by
    decide
  obtain ⟨apart, no_section, one_category⟩ := names _ listed
  simp only [List.mem_cons, List.not_mem_nil, or_false, not_or] at apart
  obtain ⟨no_type, no_buffer, no_pipeline⟩ := apart
  refine ⟨among_texts among _ _ same.texts, Ne.symm no_type, Ne.symm no_buffer,
    fun also named => absurd named (no_section also (Category.mem_all also)), fun named => absurd named.symm no_pipeline,
    fun named => absurd named.symm no_pipeline, fun also member => ?_⟩
  · obtain rfl : also = category := one_category (name, also) member rfl
    have resource (path : String) :
        resourceProblems name ⟨path, also, .map other⟩ = resourceProblems name ⟨path, also, .map one⟩ := by
      simp only [resourceProblems, same.label, same.problems]
    have each := mapM_same (resourceProblems name) (resourceProblems name) _ _
      (numbered_related (fun first second => resourceProblems name second = resourceProblems name first) (fun _ => rfl) also _ _
        resource name 0 among.front among.back)
    simp only [resourceSectionProblems, Entries.fieldOrNull, around_field, Option.getD_some, Among.fill, each]

/-! ## Every place -/

theorem place_alike (document : Value → Entries) (path : String) (category : Category)
    (stands : InDocument document path category) (one other : Entries) (same : Alike category one other) :
    diagnose { compatibility := false } (.map (document (.map other))) =
      diagnose { compatibility := false } (.map (document (.map one))) := by
  induction stands generalizing one other with
  | section_ category around section_ => exact diagnosis_same (section_alike category section_ around one other same)
  | processor around inner among => exact diagnosis_same (processor_alike around inner among one other same)
  | resource name category around among listed =>
      exact diagnosis_same (resource_alike name category listed around among one other same)
  | beside document path category around among _ owner _ ih =>
      exact ih _ _ (beside_alike category owner around among one other same)
  | within document path category type around fill inner part _ typed known holds ih =>
      have held := value_alike category part type _ inner fill holds one other same
      exact ih _ _ (within_alike category type around _ _ (typed _) known held)

-- The check of a document comes to a component exactly if it stands in one of the places. In a component in any of them a note
-- changes nothing, wherever it is put.
theorem notes_unnoticed (config : Entries) :
    (∀ part, (∃ slot ∈ documentSlots config, Visits slot part) ↔
      ∃ document, InDocument document part.path part.category ∧ document part.value = config) ∧
    ∀ document path category, InDocument document path category → ∀ front back : Entries,
      document (.map (front ++ back)) = config → ∀ key note, IsNote key note →
        diagnose { compatibility := false } (.map (document (.map (front ++ (.str key, .scalar note) :: back)))) =
          diagnose { compatibility := false } (.map config) := by
  refine ⟨visited_iff_placed config, fun document path category stands front back whole key note noted => ?_⟩
  rw [← whole]
  exact place_alike document path category stands _ _ (note_alike category key note noted front back)

def attempting (component : Value) : Entries := [
  (.str "input", .map [(.str "stdin", .map [])]),
  (.str "pipeline", .map [(.str "processors", .list [.map [(.str "try", .list [component])]])]),
  (.str "output", .map [(.str "stdout", .map [])])]

def parsing : Entries := [(.str "mapping", .str "root = content().parse_json()")]

theorem attempted_place : InDocument attempting "pipeline.processors[0].try[0]" .processor :=
  .within _ _ .processor "try" ⟨[], [], nofun⟩ (Among.fill ⟨[], []⟩) _ _
    (.processor ⟨[(.str "input", .map [(.str "stdin", .map [])])], [(.str "output", .map [(.str "stdout", .map [])])],
      by decide⟩ ⟨[], [], nofun⟩ ⟨[], []⟩)
    (fun _ => rfl) rfl (.attempt ⟨[], []⟩ (.inl rfl))

theorem notes_unnoticed_attempting :
    (∃ document, InDocument document "pipeline.processors[0].try[0]" .processor ∧
      document (.map parsing) = attempting (.map parsing)) ∧
    diagnose { compatibility := false } (.map (attempting (.map ((.str "_note", .str "only once") :: parsing)))) =
      diagnose { compatibility := false } (.map (attempting (.map parsing))) := by
  have noted : IsNote "_note" (.str "only once") := by
    refine ⟨.inr (by decide), ?_⟩
    rintro _ ⟨⟩
    decide
  obtain ⟨placed, kept⟩ := notes_unnoticed (attempting (.map parsing))
  constructor
  · let outer : Slot := ⟨"pipeline.processors[0]", .processor, .map [(.str "try", .list [.map parsing])]⟩
    have listed : outer ∈ documentSlots (attempting (.map parsing)) := .tail _ (.tail _ (.head _))
    exact (placed ⟨_, _, .map parsing⟩).mp ⟨outer, listed, .inner outer _ .root (.head _)⟩
  · exact kept attempting _ _ attempted_place [] parsing rfl "_note" (.str "only once") noted

end Validation

end PipelineLint
