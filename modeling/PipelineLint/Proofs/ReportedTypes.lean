import PipelineLint.Proofs.ComponentKeys
import PipelineLint.Proofs.UnknownTypes
/-!
What the check of a document reports, as a function of its keys. Main statement: the components that it
reports as unknown are the keys that name a component to it whose type it does not know.
-/

set_option autoImplicit false

namespace PipelineLint.Repair

open Validation

/-! ## The types that the check reports -/

def ReadKey.unknown? (key : ReadKey) : Option (String × Category) :=
  key.category.bind fun category => if Catalog.isKnown key.key category then none else some (key.key, category)

def unknownNames (role : Role) (value : Value) : List (String × Category) :=
  (readKeys role [] value).filterMap ReadKey.unknown?

def unknownEntry (role : Role) (type : Option (String × Category)) (key : String) (value : Value) : List (String × Category) :=
  (ReadKey.unknown? ⟨key, [], categoryOf type key⟩).toList ++ unknownNames (role.field type key) value

mutual

theorem read_keys_moved (role : Role) (above other : List Level) : (value : Value) →
    (readKeys role above value).filterMap ReadKey.unknown? = (readKeys role other value).filterMap ReadKey.unknown?
  | .scalar _ => rfl
  | .list items => read_items_moved role.item above other items
  | .map entries => read_entries_moved role (role.type? entries) above other entries

theorem read_items_moved (role : Role) (above other : List Level) : (items : List Value) →
    (readItems role above items).filterMap ReadKey.unknown? = (readItems role other items).filterMap ReadKey.unknown?
  | [] => rfl
  | item :: items => by
      have first := read_keys_moved role (.item :: above) (.item :: other) item
      have others := read_items_moved role above other items
      rw [readItems, readItems, List.filterMap_append, List.filterMap_append, first, others]

theorem read_entries_moved (role : Role) (type : Option (String × Category)) (above other : List Level) : (entries : Entries) →
    (readEntries role type above entries).filterMap ReadKey.unknown? =
      (readEntries role type other entries).filterMap ReadKey.unknown?
  | [] => rfl
  | (key, value) :: entries => by
      have below := read_keys_moved (role.field type key.display) (.key key.display :: above) (.key key.display :: other) value
      have others := read_entries_moved role type above other entries
      have here : ReadKey.unknown? ⟨key.display, above, categoryOf type key.display⟩ =
          ReadKey.unknown? ⟨key.display, other, categoryOf type key.display⟩ := rfl
      rw [readEntries, readEntries, List.filterMap_cons, List.filterMap_cons, List.filterMap_append, List.filterMap_append,
        here, below, others]

end

theorem unknown_items (role : Role) (above : List Level) (items : List Value) :
    (readItems role above items).filterMap ReadKey.unknown? = items.flatMap (unknownNames role) := by
  induction items with
  | nil => rfl
  | cons item items ih =>
      rw [readItems, List.filterMap_append, List.flatMap_cons, ih, read_keys_moved role _ [] item]
      rfl

theorem unknown_entries (role : Role) (type : Option (String × Category)) (above : List Level) (entries : Entries) :
    (readEntries role type above entries).filterMap ReadKey.unknown? =
      entries.flatMap fun entry => unknownEntry role type entry.1.display entry.2 := by
  induction entries with
  | nil => rfl
  | cons entry entries ih =>
      obtain ⟨key, value⟩ := entry
      have here : ReadKey.unknown? ⟨key.display, above, categoryOf type key.display⟩ =
          ReadKey.unknown? ⟨key.display, [], categoryOf type key.display⟩ := rfl
      rw [readEntries, List.filterMap_cons, List.filterMap_append, List.flatMap_cons, ih, read_keys_moved _ _ [] value, here]
      unfold unknownEntry unknownNames
      cases ReadKey.unknown? ⟨key.display, [], categoryOf type key.display⟩ <;> simp

mutual

theorem unknown_other : (value : Value) → unknownNames .other value = []
  | .scalar _ => rfl
  | .list items => (unknown_items .other [] items).trans (unknown_other_items items)
  | .map entries => (unknown_entries .other none [] entries).trans (unknown_other_entries entries)

theorem unknown_other_items : (items : List Value) → items.flatMap (unknownNames .other) = []
  | [] => rfl
  | item :: items => by
      have first := unknown_other item
      have others := unknown_other_items items
      rw [List.flatMap_cons, first, others]
      rfl

theorem unknown_other_entries : (entries : Entries) →
    (entries.flatMap fun entry => unknownEntry .other none entry.1.display entry.2) = []
  | [] => rfl
  | (key, value) :: entries => by
      have first := unknown_other value
      have others := unknown_other_entries entries
      have here : unknownEntry .other none key.display value = unknownNames .other value := rfl
      rw [List.flatMap_cons, others, here, first]
      rfl

end

theorem field_of_cons (key name : String) (value : Value) (entries : Entries) :
    Entries.field? ((.str key, value) :: entries) name = if key = name then some value else Entries.field? entries name := by
  unfold Entries.field? Entries.get?
  rw [List.find?_cons]
  by_cases same : key = name
  · simp [same]
  · simp [same, beq_eq_false_iff_ne.mpr same]

theorem field_of_new (key : String) (entries : Entries) (texts : ∀ entry ∈ entries, ∃ key : String, entry.1 = .str key)
    (new : .str key ∉ Entries.keys entries) : Entries.field? entries key = none := by
  rw [Entries.field?, Entries.get?, Option.map_eq_none_iff, List.find?_eq_none]
  intro entry member same
  obtain ⟨other, text⟩ := texts entry member
  rw [text, Scalar.sameKey_str, beq_iff_eq] at same
  exact new (List.mem_map.mpr ⟨entry, member, same ▸ text⟩)

theorem entries_by_name {β : Type} (entries : Entries) (texts : ∀ entry ∈ entries, ∃ key : String, entry.1 = .str key)
    (distinct : (Entries.keys entries).Nodup) (names : List String) (apart : names.Nodup) (adds : String → Value → List β)
    (silent : ∀ key value, key ∉ names → adds key value = []) :
    (entries.flatMap fun entry => adds entry.1.display entry.2).Perm
      (names.flatMap fun name => ((Entries.field? entries name).map (adds name)).getD []) := by
  induction entries with
  | nil => simp [Entries.field?, Entries.get?]
  | cons entry entries ih =>
      obtain ⟨scalar, value⟩ := entry
      obtain ⟨⟨key, rfl⟩, others⟩ := List.forall_mem_cons.mp texts
      obtain ⟨new, distinct⟩ := List.nodup_cons.mp distinct
      have rest := ih others distinct
      have elsewhere (names : List String) (outside : key ∉ names) :
          (names.flatMap fun name => ((Entries.field? ((.str key, value) :: entries) name).map (adds name)).getD []) =
            names.flatMap fun name => ((Entries.field? entries name).map (adds name)).getD [] := by
        rw [List.flatMap_def, List.flatMap_def]
        refine congrArg List.flatten (List.map_congr_left fun name member => ?_)
        rw [field_of_cons, if_neg]
        rintro rfl
        exact outside member
      rw [List.flatMap_cons]
      by_cases listed : key ∈ names
      · obtain ⟨front, back, rfl⟩ := List.append_of_mem listed
        have no_front : key ∉ front := fun member => (List.nodup_append.mp apart).2.2 key member key List.mem_cons_self rfl
        have no_back : key ∉ back := (List.nodup_cons.mp (List.nodup_append.mp apart).2.1).1
        rw [List.flatMap_append, List.flatMap_cons, elsewhere front no_front, elsewhere back no_back, field_of_cons, if_pos rfl]
        rw [List.flatMap_append, List.flatMap_cons, field_of_new key entries others new] at rest
        simp only [Option.map_none, Option.getD_none, List.nil_append] at rest
        refine (List.Perm.append_left _ rest).trans ?_
        simp only [Option.map_some, Option.getD_some, Scalar.display]
        rw [← List.append_assoc, ← List.append_assoc]
        exact List.perm_append_comm.append_right _
      · rw [elsewhere names listed]
        have nothing : adds (Scalar.display (.str key)) value = [] := silent key value listed
        rw [nothing]
        exact rest

/-! ## The components that the check comes to -/

def Role.slots (role : Role) (path : String) (value : Value) : List Slot :=
  match role with
  | .pipeline =>
      match value with
      | .map entries => fieldSlots path .processor entries "processors"
      | _ => []
  | .components category => listSlots path category value
  | .component category => [⟨path, category, value⟩]
  | .held category type => slotsWithin path category type value
  | .branches category =>
      match value with
      | .list items => casesSlots path category 0 items
      | _ => []
  | .branch category => caseSlots path category value
  | _ => []

def itemSlots (role : Role) (path : String) : (index : Nat) → List Value → List Slot
  | _, [] => []
  | index, item :: items => role.slots (indexed path index) item ++ itemSlots role path (index + 1) items

theorem numbered_slots (path : String) (category : Category) (index : Nat) (items : List Value) :
    numbered path category index items = itemSlots (.component category) path index items := by
  induction items generalizing index with
  | nil => rfl
  | cons item items ih => rw [numbered, itemSlots, ih]; rfl

theorem cases_slots (path : String) (category : Category) (index : Nat) (items : List Value) :
    casesSlots path category index items = itemSlots (.branch category) path index items := by
  induction items generalizing index with
  | nil => rfl
  | cons item items ih => rw [casesSlots, itemSlots, ih]; rfl

theorem other_slots (path : String) (index : Nat) (items : List Value) : itemSlots .other path index items = [] := by
  induction items generalizing index with
  | nil => rfl
  | cons item items ih => rw [itemSlots, ih]; rfl

theorem field_slots_eq (path : String) (category : Category) (entries : Entries) (name : String) :
    fieldSlots path category entries name =
      ((Entries.field? entries name).map fun value => listSlots (keyed path name) category value).getD [] := by
  unfold fieldSlots
  cases Entries.field? entries name <;> rfl

theorem switch_slots_eq (path : String) (category : Category) (entries : Entries) :
    switchSlots path category (.map entries) =
      ((Entries.field? entries "cases").map fun value =>
        Role.slots (.branches category) (keyed path "cases") value).getD [] := by
  unfold switchSlots
  simp only
  cases Entries.field? entries "cases" with
  | none => rfl
  | some value => cases value <;> rfl

theorem scalar_slots (role : Role) (path : String) (s : Scalar) (no_component : ∀ category, role ≠ .component category) :
    role.slots path (.scalar s) = [] := by
  cases role with
  | component category => exact absurd rfl (no_component category)
  | held category type =>
      simp [Role.slots, slotsWithin, wrapperSlots, plainSlots, listSlots, brokerSlots, switchSlots]
  | _ => rfl

theorem list_slots (role : Role) (path : String) (items : List Value) (no_component : ∀ category, role ≠ .component category) :
    role.slots path (.list items) = itemSlots role.item path 0 items := by
  cases role with
  | component category => exact absurd rfl (no_component category)
  | components category => exact numbered_slots path category 0 items
  | branches category => exact cases_slots path category 0 items
  | held category type =>
      simp only [Role.slots, Role.item, slotsWithin]
      split
      · simp only [wrapperSlots, listSlots, brokerSlots, switchSlots, numbered_slots, cases_slots]
        by_cases tried : type = "try" ∨ type = "catch"
        · simp [tried]
        · by_cases fallback : type = "fallback"
          · simp [fallback]
          · by_cases broker : type = "broker"
            · simp [broker, other_slots]
            · by_cases switch : type = "switch" <;> simp [tried, fallback, broker, switch, other_slots]
      · simp only [plainSlots]
        by_cases processor : category = .processor
        · by_cases listed : type ∈ processorLists <;> simp [processor, listed, numbered_slots, other_slots]
        · simp [processor, other_slots]
  | _ => exact (other_slots path 0 items).symm

theorem map_slots (role : Role) (path : String) (entries : Entries) (no_component : ∀ category, role ≠ .component category) :
    role.slots path (.map entries) =
      match role.inside? with
      | some (name, inner) => ((Entries.field? entries name).map fun value => inner.slots (keyed path name) value).getD []
      | none => [] := by
  cases role with
  | component category => exact absurd rfl (no_component category)
  | pipeline => exact field_slots_eq path .processor entries "processors"
  | held category type =>
      by_cases wrapper : Catalog.wrappers.contains type = true
      · have listed := List.contains_iff_mem.mp wrapper
        simp only [Catalog.wrappers, List.mem_cons, List.not_mem_nil, or_false] at listed
        rcases listed with rfl | rfl | rfl | rfl | rfl | rfl
        case inl => exact field_slots_eq path category entries (brokerList category)
        case inr.inr.inr.inr.inl => exact switch_slots_eq path category entries
        all_goals rfl
      · simp only [Role.slots, Role.inside?, slotsWithin, if_neg wrapper, plainSlots]
        by_cases processor : category = .processor
        · simpa [processor] using field_slots_eq path .processor entries "processors"
        · simp [processor]
  | branch category =>
      cases category with
      | processor => exact field_slots_eq path .processor entries "processors"
      | output =>
          simp only [Role.slots, caseSlots, Role.inside?]
          cases Entries.field? entries "output" <;> rfl
      | _ => rfl
  | _ => rfl

/-! ## The check of a value -/

def Role.isWalked : Role → Bool
  | .document => false
  | .buffer => false
  | _ => true

-- Whatever the check takes a value for, it reports the types of the components in it that it does not know.
def Walked (value : Value) : Prop :=
  ∀ role path, role.isWalked = true → Reports (role.slots path value) (unknownNames role value)

theorem item_walked (role : Role) : role.item.isWalked = true := by
  cases role with
  | held category type =>
      unfold Role.item
      simp only
      split
      · split
        · rfl
        · split
          · rfl
          · split <;> rfl
      · split <;> rfl
  | _ => rfl

theorem inside_walked (role : Role) (name : String) (inner : Role) (found : role.inside? = some (name, inner)) :
    inner.isWalked = true := by
  cases role with
  | pipeline =>
      cases found
      rfl
  | held category type =>
      unfold Role.inside? at found
      simp only at found
      split at found
      · split at found
        · cases found
          rfl
        · split at found <;> cases found
          rfl
      · split at found <;> cases found
        rfl
  | branch category => cases category <;> cases found <;> rfl
  | _ => cases found

theorem walked_items (role : Role) (walked : role.isWalked = true) (path : String) (index : Nat) (items : List Value)
    (inner : ∀ item ∈ items, Walked item) : Reports (itemSlots role path index items) (items.flatMap (unknownNames role)) := by
  induction items generalizing index with
  | nil => exact reports_nil
  | cons item items ih =>
      obtain ⟨first, others⟩ := List.forall_mem_cons.mp inner
      exact reports_append _ _ _ _ (first role (indexed path index) walked) (ih (index + 1) others)

theorem walked_typeless (path : String) (category : Category) (value : Value) (no_mapping : value.entries? = none) :
    Reports [⟨path, category, value⟩] [] := by
  cases value with
  | map entries => cases no_mapping
  | _ => exact reports_step ⟨path, category, _⟩ [] (fun _ same => by cases same) reports_nil

theorem walked_scalar (s : Scalar) : Walked (.scalar s) := by
  intro role path _
  by_cases component : ∃ category, role = .component category
  · obtain ⟨category, rfl⟩ := component
    exact walked_typeless path category _ rfl
  · rw [scalar_slots role path s fun category same => component ⟨category, same⟩]
    exact reports_nil

theorem walked_list (items : List Value) (inner : ∀ item ∈ items, Walked item) : Walked (.list items) := by
  intro role path _
  have names : unknownNames role (.list items) = items.flatMap (unknownNames role.item) := unknown_items role.item [] items
  rw [names]
  by_cases component : ∃ category, role = .component category
  · obtain ⟨category, rfl⟩ := component
    have nothing : items.flatMap (unknownNames (Role.item (.component category))) = [] := unknown_other_items items
    rw [nothing]
    exact walked_typeless path category _ rfl
  · rw [list_slots role path items fun category same => component ⟨category, same⟩]
    exact walked_items role.item (item_walked role) path 0 items inner

/-! ## What the entries of a component add -/

def namesBeside (category : Category) (entries : Entries) : List (String × Category) :=
  if hasProcessors category then
    ((Entries.field? entries "processors").map (unknownNames (.components .processor))).getD []
  else []

def namesWithin (category : Category) (type : String) (value : Value) : List (String × Category) :=
  if Catalog.isKnown type category then unknownNames (.held category type) value else []

def unlessKnown (category : Category) (type : String) : List (String × Category) :=
  (if Catalog.isKnown type category then none else some (type, category)).toList

theorem entry_beside (category : Category) (type key : String) (value : Value) (differ : key ≠ type) :
    unknownEntry (.component category) (some (type, category)) key value =
      if key = "processors" && hasProcessors category then unknownNames (.components .processor) value else [] := by
  have no_category : categoryOf (some (type, category)) key = none := if_neg differ
  have no_type : ¬ (decide (some (type, category) = some (key, category)) && Catalog.isKnown key category) = true := by
    simp [differ.symm]
  simp only [unknownEntry, no_category, ReadKey.unknown?, Role.field, if_neg no_type]
  split <;> simp [unknown_other]

theorem processors_unknown (category : Category) (has : hasProcessors category = true) :
    Catalog.isKnown "processors" category = false := by
  revert has
  cases category <;> decide +kernel

theorem entry_typed (category : Category) (type : String) (value : Value) :
    unknownEntry (.component category) (some (type, category)) type value = unlessKnown category type ++
      if type = "processors" && hasProcessors category then unknownNames (.components .processor) value
      else namesWithin category type value := by
  have own : (ReadKey.unknown? ⟨type, [], categoryOf (some (type, category)) type⟩).toList = unlessKnown category type := by
    simp [categoryOf, ReadKey.unknown?, unlessKnown]
  rw [unknownEntry, own, Role.field, namesWithin]
  simp only [decide_true, Bool.true_and]
  split
  · rfl
  · split <;> simp [unknown_other]

/-! ## The check of a mapping -/

theorem key_field (entries : Entries) (name : String) (listed : .str name ∈ Entries.keys entries) :
    ∃ value, Entries.field? entries name = some value :=
  Option.isSome_iff_exists.mp ((Entries.hasField_iff entries name).mpr listed)

theorem type_held (entries : Entries) (type : String) (typed : Catalog.componentType entries = .ok (some type)) :
    ∃ value, Entries.field? entries type = some value := by
  unfold Catalog.componentType at typed
  split at typed
  · cases typed
  · rename_i name found
    cases typed
    exact key_field entries type (first_type_listed _ type found).1
  · split at typed
    · rename_i held
      cases typed
      exact Option.isSome_iff_exists.mp held
    · cases typed

theorem typeless_no_processors (entries : Entries) (typed : Catalog.componentType entries = .ok none) :
    Entries.field? entries "processors" = none := by
  unfold Catalog.componentType at typed
  split at typed
  · cases typed
  · cases typed
  · split at typed
    · cases typed
    · rename_i absent
      simpa [Entries.hasField] using absent

theorem texts_readable (entries : Entries) (texts : ∀ entry ∈ entries, ∃ key : String, entry.1 = .str key) :
    Catalog.TypeIsReadable entries := by
  intro front key value back split _
  exact texts (key, value) (split ▸ by simp)

section Mapping

variable {entries : Entries} (texts : ∀ entry ∈ entries, ∃ key : String, entry.1 = .str key)
  (distinct : (Entries.keys entries).Nodup) (inner : ∀ entry ∈ entries, Walked entry.2)

include inner

theorem walked_field (role : Role) (walked : role.isWalked = true) (path name : String) :
    Reports (((Entries.field? entries name).map fun value => role.slots (keyed path name) value).getD [])
      (((Entries.field? entries name).map (unknownNames role)).getD []) := by
  cases found : Entries.field? entries name with
  | none => exact reports_nil
  | some value =>
      obtain ⟨key, member⟩ := Entries.get?_eq_some_mem found
      exact inner (key, value) member role (keyed path name) walked

include texts distinct

theorem walked_inside (role : Role) (walked : role.isWalked = true) (no_component : ∀ category, role ≠ .component category)
    (path : String) : Reports (role.slots path (.map entries)) (unknownNames role (.map entries)) := by
  have typeless : role.type? entries = none := by
    cases role with
    | component category => exact absurd rfl (no_component category)
    | buffer => cases walked
    | _ => rfl
  have general := field_of_inside role no_component (fun same => by subst same; cases walked) none
  have names : unknownNames role (.map entries) =
      entries.flatMap fun entry => unknownNames (role.field none entry.1.display) entry.2 := by
    have whole : unknownNames role (.map entries) = _ := unknown_entries role (role.type? entries) [] entries
    rw [whole, typeless]
    rfl
  have ordered (found : List String) (apart : found.Nodup) (silent : ∀ key, key ∉ found → role.field none key = .other) :=
    entries_by_name entries texts distinct found apart (fun key value => unknownNames (role.field none key) value)
      fun key value outside => by simp only [silent key outside, unknown_other]
  rw [names, map_slots role path entries no_component]
  cases below : role.inside? with
  | none =>
      have nothing := ordered [] .nil fun key _ => by rw [general, below]
      exact reports_perm reports_nil nothing.symm
  | some place =>
      obtain ⟨name, kind⟩ := place
      have one := ordered [name] (by simp) fun key outside => by
        rw [general, below]
        exact if_neg (by simpa using outside)
      simp only [List.flatMap_cons, List.flatMap_nil, List.append_nil] at one
      have kept : role.field none name = kind := by
        rw [general, below]
        exact if_pos rfl
      rw [kept] at one
      exact reports_perm (walked_field inner kind (inside_walked role name kind below) path name) one.symm

omit texts distinct in
theorem walked_beside (category : Category) (path : String) :
    Reports (slotsBeside path category entries) (namesBeside category entries) := by
  have listed : Reports (fieldSlots path .processor entries "processors")
      (((Entries.field? entries "processors").map (unknownNames (.components .processor))).getD []) := by
    rw [field_slots_eq]
    exact walked_field inner (.components .processor) rfl path "processors"
  cases category with
  | input => exact listed
  | output => exact listed
  | _ => exact reports_nil

omit inner in
theorem component_entries (category : Category) (type : String) (value : Value)
    (held : Entries.field? entries type = some value) :
    (entries.flatMap fun entry => unknownEntry (.component category) (some (type, category)) entry.1.display entry.2).Perm
      (unlessKnown category type ++ (namesBeside category entries ++ namesWithin category type value)) := by
  have ordered (names : List String) (apart : names.Nodup) (typed : type ∈ names) (listed : "processors" ∈ names) :=
    entries_by_name entries texts distinct names apart (unknownEntry (.component category) (some (type, category)))
      fun key value outside => by
        rw [entry_beside category type key value fun same => outside (same ▸ typed)]
        simp [show key ≠ "processors" from fun same => outside (same ▸ listed)]
  by_cases same : type = "processors"
  · have one := ordered ["processors"] (by simp) (by simp [same]) (by simp)
    subst same
    simp only [List.flatMap_cons, List.flatMap_nil, List.append_nil, held, Option.map_some, Option.getD_some] at one
    refine one.trans (.of_eq ?_)
    rw [entry_typed, namesBeside, held, namesWithin]
    by_cases has : hasProcessors category = true
    · simp [has, processors_unknown category has]
    · simp [has]
  · have two := ordered ["processors", type] (by simpa using Ne.symm same) (by simp) (by simp)
    simp only [List.flatMap_cons, List.flatMap_nil, List.append_nil, held, Option.map_some, Option.getD_some] at two
    have front : ((Entries.field? entries "processors").map
        (unknownEntry (.component category) (some (type, category)) "processors")).getD [] = namesBeside category entries := by
      unfold namesBeside
      cases Entries.field? entries "processors" with
      | none => simp
      | some held => simp [entry_beside category type "processors" held (Ne.symm same)]
    have back : unknownEntry (.component category) (some (type, category)) type value =
        unlessKnown category type ++ namesWithin category type value := by
      simp [entry_typed, same]
    rw [front, back] at two
    exact two.trans (List.perm_append_comm_assoc _ _ _)

theorem walked_component (category : Category) (path : String) :
    Reports [⟨path, category, .map entries⟩] (unknownNames (.component category) (.map entries)) := by
  have readable : Slot.IsReadable ⟨path, category, .map entries⟩ := fun held same =>
    Value.map.inj same ▸ texts_readable entries texts
  have whole : unknownNames (.component category) (.map entries) = _ := unknown_entries _ _ [] entries
  rw [whole]
  obtain ⟨type, typed⟩ := (Catalog.component_type_answers entries).mpr (texts_readable entries texts)
  cases type with
  | none =>
      have nothing := entries_by_name entries texts distinct ["processors"] (by simp) (unknownEntry (.component category) none)
        fun key value outside => by
          have other : key ≠ "processors" := by simpa using outside
          simp [unknownEntry, categoryOf, ReadKey.unknown?, Role.field, other, unknown_other]
      rw [List.flatMap_cons, typeless_no_processors entries typed] at nothing
      have inside : Reports (Slot.inner ⟨path, category, .map entries⟩) [] := by
        simp only [Slot.inner, typed]
        exact reports_nil
      have stepped := reports_step _ [] readable inside
      simp only [Slot.unknown?, typed] at stepped
      simp only [Role.type?, typed]
      exact reports_perm stepped nothing.symm
  | some type =>
      obtain ⟨value, held⟩ := type_held entries type typed
      have within : Reports
          (if Catalog.isKnown type category then
            slotsWithin (keyed path type) category type (Entries.fieldOrNull entries type)
          else [])
          (namesWithin category type value) := by
        unfold namesWithin
        split
        · obtain ⟨key, member⟩ := Entries.get?_eq_some_mem held
          rw [Entries.fieldOrNull, held]
          exact inner (key, value) member (.held category type) (keyed path type) rfl
        · exact reports_nil
      have parts : Slot.inner ⟨path, category, .map entries⟩ = slotsBeside path category entries ++
          if Catalog.isKnown type category then
            slotsWithin (keyed path type) category type (Entries.fieldOrNull entries type)
          else [] := by
        simp only [Slot.inner, typed]
      have inside := reports_append _ _ _ _ (walked_beside inner category path) within
      rw [← parts] at inside
      have stepped := reports_step _ _ readable inside
      simp only [Slot.unknown?, typed] at stepped
      simp only [Role.type?, typed]
      exact reports_perm stepped (component_entries texts distinct category type value held).symm

theorem walked_map : Walked (.map entries) := by
  intro role path walked
  by_cases component : ∃ category, role = .component category
  · obtain ⟨category, rfl⟩ := component
    exact walked_component texts distinct inner category path
  · exact walked_inside texts distinct inner role walked (fun category same => component ⟨category, same⟩) path

end Mapping

theorem writable_keys (entries : Entries) (writable : Document.Writable (.map entries)) :
    (∀ entry ∈ entries, ∃ key : String, entry.1 = .str key) ∧ (Entries.keys entries).Nodup ∧
      ∀ entry ∈ entries, Document.Writable entry.2 := by
  cases writable with
  | inline _ text inline =>
      cases inline
      simp [Entries.keys]
  | map _ keys distinct inner =>
      refine ⟨fun entry member => ?_, distinct, inner⟩
      obtain ⟨key, same, -⟩ := keys entry member
      exact ⟨key, same⟩

theorem writable_walked (value : Value) (writable : Document.Writable value) : Walked value := by
  induction writable with
  | inline value text inline =>
      cases inline with
      | noItems => exact walked_list [] (by simp)
      | @items items _ listed =>
          refine walked_list items fun item member => ?_
          obtain ⟨s, rfl⟩ := Document.flow_items_scalars _ _ listed item member
          exact walked_scalar s
      | noEntries => exact walked_map (by simp) (by simp [Entries.keys]) (by simp)
      | _ => exact walked_scalar _
  | text s mark lines _ => exact walked_scalar _
  | list items _ _ walked => exact walked_list items walked
  | map entries keys distinct _ walked =>
      refine walked_map (fun entry member => ?_) distinct walked
      obtain ⟨key, same, -⟩ := keys entry member
      exact ⟨key, same⟩

/-! ## The check of a document -/

theorem sections_report (entries : Entries) (walked : ∀ entry ∈ entries, Walked entry.2) (category : Category) :
    ∃ problems, sectionProblems entries category = .ok problems ∧ (problems.filterMap reported?).Perm
      (((Entries.field? entries category.name).map (unknownNames (.component category))).getD []) := by
  unfold sectionProblems
  cases found : Entries.field? entries category.name with
  | none =>
      refine ⟨_, rfl, ?_⟩
      have other : AllOther [missingSection category.name] := by
        refine List.forall_mem_singleton.mpr ?_
        simpa only [missingSection, String.append_assoc] using other_head 'M' _ _ (by decide)
      rw [all_other_unreported _ other]
      exact .nil
  | some value =>
      obtain ⟨key, member⟩ := Entries.get?_eq_some_mem found
      exact (reports_one _ _).mp (walked (key, value) member (.component category) category.name rfl)

theorem processors_report (entries : Entries) (walked : ∀ entry ∈ entries, Walked entry.2) :
    Reports (processorSlots entries) (((Entries.field? entries "pipeline").map (unknownNames .pipeline)).getD []) := by
  unfold processorSlots Entries.fieldOrNull
  cases found : Entries.field? entries "pipeline" with
  | none => exact reports_nil
  | some value =>
      obtain ⟨key, member⟩ := Entries.get?_eq_some_mem found
      exact walked (key, value) member .pipeline "pipeline" rfl

-- The first key of a buffer is its type, and nothing is looked for in the others.
theorem buffer_names (key : String) (value : Value) (entries : Entries)
    (texts : ∀ entry ∈ entries, ∃ key : String, entry.1 = .str key) (new : .str key ∉ Entries.keys entries) :
    unknownNames .buffer (.map ((.str key, value) :: entries)) = unlessKnown .buffer key := by
  have whole : unknownNames .buffer (.map ((.str key, value) :: entries)) = _ :=
    unknown_entries .buffer (some (key, .buffer)) [] ((.str key, value) :: entries)
  have below (name : String) (value : Value) : unknownNames (Role.field .buffer (some (key, .buffer)) name) value = [] :=
    unknown_other value
  have rest : (entries.flatMap fun entry => unknownEntry .buffer (some (key, .buffer)) entry.1.display entry.2) = [] := by
    refine List.flatMap_eq_nil_iff.mpr fun entry member => ?_
    obtain ⟨other, text⟩ := texts entry member
    have differ : other ≠ key := by
      rintro rfl
      exact new (List.mem_map.mpr ⟨entry, member, text⟩)
    rw [unknownEntry, below, text]
    simp [Scalar.display, categoryOf, differ, ReadKey.unknown?]
  rw [whole, List.flatMap_cons, rest, unknownEntry, below, List.append_nil, List.append_nil]
  simp only [Scalar.display, categoryOf, ReadKey.unknown?, if_true, Option.bind_some]
  rfl

theorem buffer_reported (buffer : Value) (writable : Document.Writable buffer) :
    (bufferProblems buffer).filterMap reported? = unknownNames .buffer buffer := by
  cases buffer with
  | scalar s => rfl
  | list items => exact ((unknown_items .other [] items).trans (unknown_other_items items)).symm
  | map entries =>
      cases entries with
      | nil => rfl
      | cons entry entries =>
          obtain ⟨texts, distinct, -⟩ := writable_keys _ writable
          obtain ⟨scalar, value⟩ := entry
          obtain ⟨⟨key, rfl⟩, others⟩ := List.forall_mem_cons.mp texts
          rw [buffer_names key value entries others (List.nodup_cons.mp distinct).1]
          have named : isOneOf Catalog.bufferNames (.str key) = Catalog.isKnown key .buffer := rfl
          simp only [bufferProblems, named, Scalar.display, unlessKnown]
          split
          · refine all_other_unreported _ ?_
            split
            · exact component_problems_other _ _ value
            · simp [AllOther]
          · have reported : reported? (unknownBuffer key) = some (key, .buffer) := reported_unknown _ key .buffer _
            rw [List.filterMap_cons_some reported]
            rfl

theorem buffer_reports (entries : Entries) (writable : ∀ entry ∈ entries, Document.Writable entry.2) :
    ((bufferProblems (Entries.fieldOrNull entries "buffer")).filterMap reported?).Perm
      (((Entries.field? entries "buffer").map (unknownNames .buffer)).getD []) := by
  unfold Entries.fieldOrNull
  cases found : Entries.field? entries "buffer" with
  | none => exact .nil
  | some value =>
      obtain ⟨key, member⟩ := Entries.get?_eq_some_mem found
      exact .of_eq (buffer_reported value (writable (key, value) member))

theorem resource_reported (name : String) (slot : Slot) (problems : List Problem) (answered : slotProblems slot = .ok problems) :
    ∃ more, resourceProblems name slot = .ok more ∧ more.filterMap reported? = problems.filterMap reported? := by
  unfold resourceProblems
  rw [answered]
  refine ⟨_, rfl, ?_⟩
  rw [List.filterMap_append, all_other_unreported, List.nil_append]
  split
  · split
    · simp [AllOther]
    · refine List.forall_mem_singleton.mpr ?_
      simpa only [unlabelled, String.append_assoc] using other_head 'R' _ _ (by decide)
  · simp [AllOther]

theorem resources_reported (name : String) (slots : List Slot) (problems : List Problem)
    (answered : slotsProblems slots = .ok problems) : ∃ lists, slots.mapM (resourceProblems name) = .ok lists ∧
      lists.flatten.filterMap reported? = problems.filterMap reported? := by
  induction slots generalizing problems with
  | nil =>
      cases answered
      exact ⟨[], rfl, rfl⟩
  | cons slot rest ih =>
      rw [slotsProblems] at answered
      obtain ⟨first, here, answered⟩ := bound_ok _ _ problems answered
      obtain ⟨others, onward, answered⟩ := bound_ok _ _ problems answered
      cases answered
      obtain ⟨lists, mapped, same⟩ := ih others onward
      obtain ⟨more, alone, reported⟩ := resource_reported name slot first here
      rw [List.mapM_cons, alone, mapped]
      exact ⟨more :: lists, rfl, by rw [List.flatten_cons, List.filterMap_append, List.filterMap_append, reported, same]⟩

theorem resource_section_reports (entries : Entries) (walked : ∀ entry ∈ entries, Walked entry.2) (name : String)
    (category : Category) : ∃ problems, resourceSectionProblems entries name category = .ok problems ∧
      (problems.filterMap reported?).Perm
        (((Entries.field? entries name).map (unknownNames (.components category))).getD []) := by
  have no_list (value : Value) (nothing : unknownNames (.components category) value = []) :
      (List.filterMap reported? [resourcesNotList name]).Perm (unknownNames (.components category) value) := by
    have other : AllOther [resourcesNotList name] :=
      List.forall_mem_singleton.mpr (other_end _ (by simp [resourcesNotList, String.toList_append]))
    rw [nothing, all_other_unreported _ other]
  unfold resourceSectionProblems Entries.fieldOrNull
  cases found : Entries.field? entries name with
  | none => exact ⟨[], rfl, .nil⟩
  | some value =>
      obtain ⟨key, member⟩ := Entries.get?_eq_some_mem found
      have reports := walked (key, value) member (.components category) name rfl
      simp only [Option.getD_some, Option.map_some]
      split
      · exact ⟨[], rfl, .nil⟩
      · obtain ⟨problems, answered, same⟩ := reports
        obtain ⟨lists, mapped, reported⟩ := resources_reported name _ problems answered
        refine ⟨lists.flatten, ?_, reported ▸ same⟩
        simp only [Role.slots, listSlots] at mapped
        rw [mapped]
        rfl
      · rename_i no_null no_items
        refine ⟨_, rfl, no_list value ?_⟩
        cases value with
        | scalar s => rfl
        | list items => exact absurd rfl (no_items items)
        | map entries =>
            have whole : unknownNames (.components category) (.map entries) = _ := unknown_entries _ none [] entries
            exact whole.trans (unknown_other_entries entries)

theorem all_resources_report (entries : Entries) (walked : ∀ entry ∈ entries, Walked entry.2)
    (sections : List (String × Category)) : ∃ lists,
      (sections.mapM fun (name, category) => resourceSectionProblems entries name category) = .ok lists ∧
        (lists.flatten.filterMap reported?).Perm (sections.flatMap fun (name, category) =>
          ((Entries.field? entries name).map (unknownNames (.components category))).getD []) := by
  induction sections with
  | nil => exact ⟨[], rfl, .nil⟩
  | cons first sections ih =>
      obtain ⟨name, category⟩ := first
      obtain ⟨problems, answered, same⟩ := resource_section_reports entries walked name category
      obtain ⟨lists, mapped, others⟩ := ih
      refine ⟨problems :: lists, ?_, ?_⟩
      · rw [List.mapM_cons]
        simp only [answered, mapped]
        rfl
      · rw [List.flatten_cons, List.filterMap_append, List.flatMap_cons]
        exact same.append others

def documentNames : List String :=
  ["input", "output", "pipeline", "buffer"] ++ resourceSections.map Prod.fst

theorem document_reports (entries : Entries) (writable : Document.Writable (.map entries)) :
    ∃ errors, documentProblems entries = .ok errors ∧
      (errors.filterMap reported?).Perm ((documentKeys entries).filterMap ReadKey.unknown?) := by
  obtain ⟨texts, distinct, inside⟩ := writable_keys entries writable
  have walked : ∀ entry ∈ entries, Walked entry.2 := fun entry member => writable_walked entry.2 (inside entry member)
  obtain ⟨input, input_found, input_names⟩ := sections_report entries walked .input
  obtain ⟨output, output_found, output_names⟩ := sections_report entries walked .output
  obtain ⟨processors, processors_found, processor_names⟩ := processors_report entries walked
  obtain ⟨resources, resources_found, resource_names⟩ := all_resources_report entries walked resourceSections
  have all : documentProblems entries = .ok (foreignProblems entries ++ input ++ output ++ processors ++
      bufferProblems (Entries.fieldOrNull entries "buffer") ++ resources.flatten ++ expressionProblems entries) := by
    have listed : allResourceProblems entries = .ok resources.flatten := by
      rw [allResourceProblems, resources_found]
      rfl
    unfold documentProblems
    rw [input_found, output_found, processors_found, listed]
    rfl
  refine ⟨_, all, ?_⟩
  have named := entries_by_name entries texts distinct documentNames (by decide) (unknownEntry .document none)
    fun key value outside => by
      rw [documentNames, List.mem_append, not_or] at outside
      obtain ⟨input, output, pipeline, buffer⟩ : key ≠ "input" ∧ key ≠ "output" ∧ key ≠ "pipeline" ∧ key ≠ "buffer" := by
        simpa using outside.1
      have listed : resourceSections.lookup key = none := List.lookup_eq_none_iff.mpr fun entry member => by
        simpa using fun same : key = entry.1 => outside.2 (same ▸ List.mem_map_of_mem member)
      simp [unknownEntry, categoryOf, ReadKey.unknown?, Role.field, input, output, pipeline, buffer, listed, unknown_other]
  have whole : (documentKeys entries).filterMap ReadKey.unknown? = _ := unknown_entries .document none [] entries
  rw [whole]
  refine List.Perm.trans ?_ named.symm
  simp only [List.filterMap_append, all_other_unreported _ (section_key_problems_other entries),
    all_other_unreported _ (expression_problems_other entries), List.nil_append, List.append_nil]
  rw [documentNames, List.flatMap_append]
  refine List.Perm.append ?_ resource_names
  simp only [List.flatMap_cons, List.flatMap_nil, List.append_nil, ← List.append_assoc]
  exact ((input_names.append output_names).append processor_names).append (buffer_reports entries inside)

end PipelineLint.Repair
