import PipelineLint.Proofs.ComponentKeys

set_option autoImplicit false

namespace PipelineLint.Validation

structure Around (name : String) where
  front : Entries
  back : Entries
  first : .str name ∉ Entries.keys front

def Around.fill {name : String} (around : Around name) (held : Value) : Entries :=
  around.front ++ (.str name, held) :: around.back

structure Among where
  front : List Value
  back : List Value

def Among.fill (among : Among) (item : Value) : Value :=
  .list (among.front ++ item :: among.back)

def Among.path (among : Among) (path : String) : String :=
  indexed path among.front.length

theorem around_keys {name : String} (around : Around name) (held : Value) :
    Entries.keys (around.fill held) = Entries.keys around.front ++ .str name :: Entries.keys around.back := by
  simp [Entries.keys, Around.fill]

theorem field_in_front (front back : Entries) (name : String) (absent : .str name ∉ Entries.keys front) :
    Entries.field? (front ++ back) name = Entries.field? back name := by
  have none_found : front.find? (fun entry => entry.1.sameKey (.str name)) = none := by
    rw [List.find?_eq_none]
    intro entry member same
    exact absent (List.mem_map.mpr ⟨entry, member, (Scalar.sameKey_str_iff entry.1 name).mp same⟩)
  rw [Entries.field?, Entries.get?, List.find?_append, none_found, Option.none_or]
  rfl

theorem other_field (front back : Entries) (key name : String) (held : Value) (differs : name ≠ key) :
    Entries.field? (front ++ (.str key, held) :: back) name = Entries.field? (front ++ back) name := by
  have passed : Scalar.sameKey (.str key) (.str name) = false := beq_false_of_ne (Ne.symm differs)
  simp only [Entries.field?, Entries.get?, List.find?_append, List.find?_cons, passed]

theorem around_field {name : String} (around : Around name) (held : Value) :
    Entries.field? (around.fill held) name = some held := by
  rw [Around.fill, field_in_front _ _ name around.first]
  simp [Entries.field?, Entries.get?]

theorem field_around (entries : Entries) (name : String) (held : Value) (found : Entries.field? entries name = some held) :
    ∃ around : Around name, around.fill held = entries := by
  obtain ⟨⟨key, value⟩, first, rfl⟩ := Option.map_eq_some_iff.mp found
  obtain ⟨same, front, back, rfl, others⟩ := List.find?_eq_some_iff_append.mp first
  obtain rfl := (Scalar.sameKey_str_iff key name).mp same
  refine ⟨⟨front, back, fun member => ?_⟩, rfl⟩
  obtain ⟨entry, stands, named⟩ := List.mem_map.mp member
  have differs := others entry stands
  rw [named, Scalar.sameKey_refl] at differs
  cases differs

theorem numbered_among (path : String) (category : Category) (index : Nat) (items : List Value) (slot : Slot)
    (member : slot ∈ numbered path category index items) :
    ∃ (among : Among) (item : Value), among.fill item = .list items ∧
      slot = ⟨indexed path (index + among.front.length), category, item⟩ := by
  induction items generalizing index with
  | nil => exact absurd member List.not_mem_nil
  | cons first rest ih =>
      rcases List.mem_cons.mp member with here | later
      · exact ⟨⟨[], rest⟩, first, rfl, here⟩
      · obtain ⟨⟨front, back⟩, item, whole, same⟩ := ih (index + 1) later
        have longer := congrArg (fun items => Value.list (first :: items)) (Value.list.inj whole)
        refine ⟨⟨first :: front, back⟩, item, longer, ?_⟩
        rw [same, List.length_cons, Nat.add_assoc, Nat.add_comm 1]

theorem list_slot (path : String) (category : Category) (value : Value) (slot : Slot)
    (member : slot ∈ listSlots path category value) :
    ∃ (among : Among) (item : Value), among.fill item = value ∧ slot = ⟨among.path path, category, item⟩ := by
  cases value with
  | list items =>
      obtain ⟨among, item, whole, same⟩ := numbered_among path category 0 items slot member
      rw [Nat.zero_add] at same
      exact ⟨among, item, whole, same⟩
  | _ => exact absurd member List.not_mem_nil

theorem field_slot (path : String) (category : Category) (entries : Entries) (name : String) (slot : Slot)
    (member : slot ∈ fieldSlots path category entries name) :
    ∃ (around : Around name) (among : Among) (item : Value), around.fill (among.fill item) = entries ∧
      slot = ⟨among.path (keyed path name), category, item⟩ := by
  unfold fieldSlots at member
  split at member
  · rename_i value found
    obtain ⟨among, item, rfl, same⟩ := list_slot _ category value slot member
    obtain ⟨around, whole⟩ := field_around entries name _ found
    exact ⟨around, among, item, whole, same⟩
  · exact absurd member List.not_mem_nil

inductive InCase : Category → String → (Value → Value) → String → Category → Prop where
  | processors (path : String) (around : Around "processors") (among : Among) :
      InCase .processor path (fun item => .map (around.fill (among.fill item))) (among.path (keyed path "processors"))
        .processor
  | output (path : String) (around : Around "output") :
      InCase .output path (fun held => .map (around.fill held)) (keyed path "output") .output

inductive InValue (category : Category) (type path : String) : (Value → Value) → String → Category → Prop where
  | attempt (among : Among) : type = "try" ∨ type = "catch" →
      InValue category type path among.fill (among.path path) .processor
  | fallback (among : Among) : type = "fallback" → InValue category type path among.fill (among.path path) category
  | broker (around : Around (Repair.brokerList category)) (among : Among) : type = "broker" →
      InValue category type path (fun item => .map (around.fill (among.fill item)))
        (among.path (keyed path (Repair.brokerList category))) category
  | case (among : Among) (fill : Value → Value) (inner : String) (part : Category) : type = "switch" →
      InCase category (among.path path) fill inner part →
      InValue category type path (fun held => among.fill (fill held)) inner part
  | cases (around : Around "cases") (among : Among) (fill : Value → Value) (inner : String) (part : Category) :
      type = "switch" → InCase category (among.path (keyed path "cases")) fill inner part →
      InValue category type path (fun held => .map (around.fill (among.fill (fill held)))) inner part
  | processors (among : Among) : Catalog.wrappers.contains type = false → category = .processor →
      processorLists.contains type = true → InValue category type path among.fill (among.path path) .processor
  | field (around : Around "processors") (among : Among) : Catalog.wrappers.contains type = false → category = .processor →
      InValue category type path (fun item => .map (around.fill (among.fill item))) (among.path (keyed path "processors"))
        .processor

-- The places in a document. In a component they are beside its type and in the value of the type, if this is known.
inductive InDocument : (Value → Entries) → String → Category → Prop where
  | section_ (category : Category) (around : Around category.name) : category = .input ∨ category = .output →
      InDocument around.fill category.name category
  | processor (around : Around "pipeline") (inner : Around "processors") (among : Among) :
      InDocument (fun item => around.fill (.map (inner.fill (among.fill item)))) (among.path (keyed "pipeline" "processors"))
        .processor
  | resource (name : String) (category : Category) (around : Around name) (among : Among) :
      (name, category) ∈ resourceSections →
      InDocument (fun item => around.fill (among.fill item)) (among.path name) category
  | beside (document : Value → Entries) (path : String) (category : Category) (around : Around "processors") (among : Among) :
      InDocument document path category → category = .input ∨ category = .output →
      (∃ type, ∀ held, Catalog.componentType (around.fill held) = .ok (some type)) →
      InDocument (fun item => document (.map (around.fill (among.fill item)))) (among.path (keyed path "processors")) .processor
  | within (document : Value → Entries) (path : String) (category : Category) (type : String) (around : Around type)
      (fill : Value → Value) (inner : String) (part : Category) : InDocument document path category →
      (∀ held, Catalog.componentType (around.fill held) = .ok (some type)) → Catalog.isKnown type category = true →
      InValue category type (keyed path type) fill inner part →
      InDocument (fun held => document (.map (around.fill (fill held)))) inner part

theorem case_slot (path : String) (category : Category) (case : Value) (slot : Slot)
    (member : slot ∈ caseSlots path category case) :
    ∃ fill, InCase category path fill slot.path slot.category ∧ fill slot.value = case := by
  unfold caseSlots at member
  split at member
  · rename_i entries
    split at member
    · obtain ⟨around, among, item, rfl, rfl⟩ := field_slot path .processor entries "processors" slot member
      exact ⟨_, .processors path around among, rfl⟩
    · split at member
      · rename_i value found
        obtain rfl := List.mem_singleton.mp member
        obtain ⟨around, rfl⟩ := field_around entries "output" value found
        exact ⟨_, .output path around, rfl⟩
      · exact absurd member List.not_mem_nil
    · exact absurd member List.not_mem_nil
  · exact absurd member List.not_mem_nil

theorem cases_slot (path : String) (category : Category) (index : Nat) (cases : List Value) (slot : Slot)
    (member : slot ∈ casesSlots path category index cases) :
    ∃ (among : Among) (fill : Value → Value),
      InCase category (indexed path (index + among.front.length)) fill slot.path slot.category ∧
        among.fill (fill slot.value) = .list cases := by
  induction cases generalizing index with
  | nil => exact absurd member List.not_mem_nil
  | cons case rest ih =>
      rcases List.mem_append.mp member with here | later
      · obtain ⟨fill, stands, rfl⟩ := case_slot _ category case slot here
        exact ⟨⟨[], rest⟩, fill, stands, rfl⟩
      · obtain ⟨⟨front, back⟩, fill, stands, whole⟩ := ih (index + 1) later
        have longer := congrArg (fun items => Value.list (case :: items)) (Value.list.inj whole)
        refine ⟨⟨case :: front, back⟩, fill, ?_, longer⟩
        rwa [List.length_cons, ← Nat.add_assoc, Nat.add_right_comm]

theorem value_slot (path : String) (category : Category) (type : String) (value : Value) (slot : Slot)
    (member : slot ∈ slotsWithin path category type value) :
    ∃ fill, InValue category type path fill slot.path slot.category ∧ fill slot.value = value := by
  unfold slotsWithin at member
  split at member
  · unfold wrapperSlots at member
    split at member
    · rename_i tried
      obtain ⟨among, item, whole, rfl⟩ := list_slot path .processor value slot member
      exact ⟨_, .attempt among (by simpa using tried), whole⟩
    · split at member
      · rename_i same
        obtain ⟨among, item, whole, rfl⟩ := list_slot path category value slot member
        exact ⟨_, .fallback among same, whole⟩
      · split at member
        · rename_i same
          unfold brokerSlots at member
          split at member
          · rename_i entries
            obtain ⟨around, among, item, rfl, rfl⟩ := field_slot path category entries _ slot member
            exact ⟨_, .broker around among same, rfl⟩
          · exact absurd member List.not_mem_nil
        · split at member
          · rename_i same
            unfold switchSlots at member
            split at member
            · rename_i cases
              obtain ⟨among, fill, stands, whole⟩ := cases_slot path category 0 cases slot member
              rw [Nat.zero_add] at stands
              exact ⟨_, .case among fill _ _ same stands, whole⟩
            · split at member
              · rename_i entries _ cases found
                obtain ⟨among, fill, stands, whole⟩ := cases_slot _ category 0 cases slot member
                rw [Nat.zero_add] at stands
                obtain ⟨around, rfl⟩ := field_around entries "cases" _ (whole ▸ found)
                exact ⟨_, .cases around among fill _ _ same stands, rfl⟩
              · exact absurd member List.not_mem_nil
            · exact absurd member List.not_mem_nil
          · exact absurd member List.not_mem_nil
  · rename_i plain
    have plain : Catalog.wrappers.contains type = false := by simpa using plain
    unfold plainSlots at member
    split at member
    · rename_i processor
      split at member
      · rename_i items
        split at member
        · rename_i listed
          obtain ⟨among, item, whole, rfl⟩ := list_slot path .processor (.list items) slot member
          exact ⟨_, .processors among plain processor listed, whole⟩
        · exact absurd member List.not_mem_nil
      · rename_i entries
        obtain ⟨around, among, item, rfl, rfl⟩ := field_slot path .processor entries "processors" slot member
        exact ⟨_, .field around among plain processor, rfl⟩
      · exact absurd member List.not_mem_nil
    · exact absurd member List.not_mem_nil

theorem in_value_filled (category : Category) (type path : String) (fill : Value → Value) (inner : String) (part : Category)
    (stands : InValue category type path fill inner part) (held : Value) : fill held ≠ .null := by
  cases stands <;> exact nofun

theorem around_given (entries : Entries) (name : String) (held : Value) (given : Entries.fieldOrNull entries name = held)
    (filled : held ≠ .null) : ∃ around : Around name, around.fill held = entries := by
  unfold Entries.fieldOrNull at given
  cases found : Entries.field? entries name with
  | none =>
      rw [found] at given
      exact absurd given.symm filled
  | some value =>
      rw [found] at given
      exact field_around entries name held (given ▸ found)

theorem has_field_keys (one other : Entries) (same : Entries.keys other = Entries.keys one) :
    Entries.hasField other = Entries.hasField one := by
  funext name
  rw [Bool.eq_iff_iff, Entries.hasField_iff, Entries.hasField_iff, same]

theorem component_type_keys (one other : Entries) (same : Entries.keys other = Entries.keys one) :
    Catalog.componentType other = Catalog.componentType one := by
  rw [Catalog.componentType, Catalog.componentType, same, has_field_keys one other same]

theorem around_type {name : String} (around : Around name) (one other : Value) :
    Catalog.componentType (around.fill other) = Catalog.componentType (around.fill one) :=
  component_type_keys _ _ (by rw [around_keys, around_keys])

theorem inner_in_document (document : Value → Entries) (outer part : Slot)
    (stands : InDocument document outer.path outer.category) (member : part ∈ outer.inner) :
    ∃ inner, InDocument inner part.path part.category ∧ inner part.value = document outer.value := by
  obtain ⟨path, category, value⟩ := outer
  unfold Slot.inner at member
  simp only at member
  split at member
  · rename_i entries
    split at member
    · rename_i type typed
      have same_type {name : String} (around : Around name) (given : Value) (whole : around.fill given = entries)
          (held : Value) : Catalog.componentType (around.fill held) = .ok (some type) := by
        rw [around_type around given held, whole, typed]
      rcases List.mem_append.mp member with beside | within
      · have owner : category = .input ∨ category = .output := by
          cases category <;> simp_all [slotsBeside]
        have listed : part ∈ fieldSlots path .processor entries "processors" := by
          rcases owner with rfl | rfl <;> exact beside
        obtain ⟨around, among, item, rfl, rfl⟩ := field_slot path .processor entries "processors" part listed
        exact ⟨_, .beside document path category around among stands owner ⟨type, same_type around _ rfl⟩, rfl⟩
      · split at within
        · rename_i known
          obtain ⟨fill, holds, whole⟩ := value_slot _ category type _ part within
          obtain ⟨around, rfl⟩ := around_given entries type _ whole.symm (in_value_filled _ _ _ fill _ _ holds part.value)
          exact ⟨_, .within document path category type around fill _ _ stands (same_type around _ rfl) known holds, rfl⟩
        · exact absurd within List.not_mem_nil
    · exact absurd member List.not_mem_nil
  · exact absurd member List.not_mem_nil

theorem document_slot (entries : Entries) (slot : Slot) (member : slot ∈ documentSlots entries) :
    ∃ document, InDocument document slot.path slot.category ∧ document slot.value = entries := by
  have in_section (category : Category) (section_ : category = .input ∨ category = .output)
      (found : slot ∈ sectionSlots entries category) :
      ∃ document, InDocument document slot.path slot.category ∧ document slot.value = entries := by
    unfold sectionSlots at found
    split at found
    · rename_i value held
      obtain rfl := List.mem_singleton.mp found
      obtain ⟨around, whole⟩ := field_around entries _ value held
      exact ⟨_, .section_ category around section_, whole⟩
    · exact absurd found List.not_mem_nil
  simp only [documentSlots, List.mem_append] at member
  rcases member with ((input | output) | processor) | resource
  · exact in_section .input (.inl rfl) input
  · exact in_section .output (.inr rfl) output
  · unfold processorSlots at processor
    split at processor
    · rename_i pipeline held
      obtain ⟨inner, among, item, rfl, rfl⟩ := field_slot "pipeline" .processor pipeline "processors" slot processor
      obtain ⟨around, rfl⟩ := around_given entries "pipeline" _ held (by simp)
      exact ⟨_, .processor around inner among, rfl⟩
    · exact absurd processor List.not_mem_nil
  · obtain ⟨⟨name, category⟩, listed, found⟩ := List.mem_flatMap.mp resource
    obtain ⟨among, item, whole, rfl⟩ := list_slot name category _ slot found
    obtain ⟨around, rfl⟩ := around_given entries name _ whole.symm (by simp [Among.fill])
    exact ⟨_, .resource name category around among listed, rfl⟩

theorem visited_in_document (entries : Entries) (slot part : Slot) (listed : slot ∈ documentSlots entries)
    (visited : Visits slot part) :
    ∃ document, InDocument document part.path part.category ∧ document part.value = entries := by
  induction visited with
  | root => exact document_slot entries slot listed
  | inner outer part _ member ih =>
      obtain ⟨document, stands, whole⟩ := ih
      obtain ⟨inner, also, same⟩ := inner_in_document document outer part stands member
      exact ⟨inner, also, same.trans whole⟩

theorem among_numbered (path : String) (category : Category) (index : Nat) (front back : List Value) (item : Value) :
    ⟨indexed path (index + front.length), category, item⟩ ∈ numbered path category index (front ++ item :: back) := by
  induction front generalizing index with
  | nil => exact List.mem_cons_self
  | cons first front ih =>
      have later := ih (index + 1)
      rw [Nat.add_right_comm, Nat.add_assoc] at later
      exact List.mem_cons_of_mem _ later

theorem among_slot (path : String) (category : Category) (among : Among) (item : Value) :
    ⟨among.path path, category, item⟩ ∈ listSlots path category (among.fill item) := by
  have here := among_numbered path category 0 among.front among.back item
  rwa [Nat.zero_add] at here

theorem around_slot (path : String) (category : Category) (name : String) (around : Around name) (among : Among)
    (item : Value) :
    ⟨among.path (keyed path name), category, item⟩ ∈ fieldSlots path category (around.fill (among.fill item)) name := by
  rw [fieldSlots, around_field]
  exact among_slot (keyed path name) category among item

theorem in_case_slot (path inner : String) (category part : Category) (fill : Value → Value)
    (stands : InCase category path fill inner part) (held : Value) :
    ⟨inner, part, held⟩ ∈ caseSlots path category (fill held) := by
  cases stands with
  | processors _ around among => exact around_slot path .processor "processors" around among held
  | output _ around =>
      simp only [caseSlots, around_field]
      exact List.mem_cons_self

theorem among_case (path : String) (category : Category) (index : Nat) (front back : List Value) (case : Value) (slot : Slot)
    (member : slot ∈ caseSlots (indexed path (index + front.length)) category case) :
    slot ∈ casesSlots path category index (front ++ case :: back) := by
  induction front generalizing index with
  | nil => exact List.mem_append_left _ member
  | cons first front ih =>
      refine List.mem_append_right _ (ih (index + 1) ?_)
      rwa [Nat.add_right_comm, Nat.add_assoc]

theorem in_value_slot (category part : Category) (type path inner : String) (fill : Value → Value)
    (stands : InValue category type path fill inner part) (held : Value) :
    ⟨inner, part, held⟩ ∈ slotsWithin path category type (fill held) := by
  have switch (value : Value) : slotsWithin path category "switch" value = switchSlots path category value := rfl
  cases stands with
  | attempt among tried => rcases tried with rfl | rfl <;> exact among_slot path .processor among held
  | fallback among named =>
      subst named
      exact among_slot path category among held
  | broker around among named =>
      subst named
      exact around_slot path category _ around among held
  | case among fill _ _ named stands =>
      subst named
      have inside := in_case_slot _ _ _ _ fill stands held
      rw [Among.path, ← Nat.zero_add among.front.length] at inside
      exact among_case path category 0 among.front among.back (fill held) _ inside
  | cases around among fill _ _ named stands =>
      subst named
      have inside := in_case_slot _ _ _ _ fill stands held
      rw [Among.path, ← Nat.zero_add among.front.length] at inside
      simp only [switch, switchSlots, around_field]
      exact among_case (keyed path "cases") category 0 among.front among.back (fill held) _ inside
  | processors among plain processor listed =>
      subst processor
      simp only [slotsWithin, plain, Bool.false_eq_true, if_false, plainSlots, if_true, Among.fill, listed]
      exact among_slot path .processor among held
  | field around among plain processor =>
      subst processor
      simp only [slotsWithin, plain, Bool.false_eq_true, if_false, plainSlots, if_true]
      exact around_slot path .processor "processors" around among held

theorem placed_visited (document : Value → Entries) (path : String) (category : Category)
    (stands : InDocument document path category) (held : Value) :
    ∃ slot ∈ documentSlots (document held), Visits slot ⟨path, category, held⟩ := by
  induction stands generalizing held with
  | section_ category around section_ =>
      refine ⟨_, ?_, .root⟩
      have here : ⟨category.name, category, held⟩ ∈ sectionSlots (around.fill held) category := by
        rw [sectionSlots, around_field]
        exact List.mem_cons_self
      simp only [documentSlots, List.mem_append]
      rcases section_ with rfl | rfl
      · exact .inl (.inl (.inl here))
      · exact .inl (.inl (.inr here))
  | processor around inner among =>
      refine ⟨_, ?_, .root⟩
      simp only [documentSlots, List.mem_append, processorSlots, Entries.fieldOrNull, around_field, Option.getD_some]
      exact .inl (.inr (around_slot "pipeline" .processor "processors" inner among held))
  | resource name category around among listed =>
      refine ⟨_, ?_, .root⟩
      simp only [documentSlots, List.mem_append, resourceSlots, List.mem_flatMap]
      refine .inr ⟨(name, category), listed, ?_⟩
      rw [Entries.fieldOrNull, around_field]
      exact among_slot name category among held
  | beside document path category around among _ owner typed ih =>
      obtain ⟨slot, listed, visited⟩ := ih (.map (around.fill (among.fill held)))
      refine ⟨slot, listed, .inner _ _ visited ?_⟩
      obtain ⟨type, typed⟩ := typed
      have here := around_slot path .processor "processors" around among held
      simp only [Slot.inner, typed, List.mem_append]
      rcases owner with rfl | rfl <;> exact .inl here
  | within document path category type around fill inner part _ typed known holds ih =>
      obtain ⟨slot, listed, visited⟩ := ih (.map (around.fill (fill held)))
      refine ⟨slot, listed, .inner _ _ visited ?_⟩
      have here := in_value_slot category part type _ inner fill holds held
      simp only [Slot.inner, typed, known, if_true, List.mem_append, Entries.fieldOrNull, around_field, Option.getD_some]
      exact .inr here

-- The check of a document comes to a component exactly if it stands in one of the places.
theorem visited_iff_placed (entries : Entries) (part : Slot) :
    (∃ slot ∈ documentSlots entries, Visits slot part) ↔
      ∃ document, InDocument document part.path part.category ∧ document part.value = entries := by
  constructor
  · rintro ⟨slot, listed, visited⟩
    exact visited_in_document entries slot part listed visited
  · rintro ⟨document, stands, rfl⟩
    exact placed_visited document part.path part.category stands part.value

end PipelineLint.Validation
