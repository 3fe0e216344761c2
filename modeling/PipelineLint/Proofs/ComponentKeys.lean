import PipelineLint.Proofs.Answers
import PipelineLint.Proofs.KeyPaths

set_option autoImplicit false

namespace PipelineLint.Repair

open Validation

inductive Role where
  | document
  | pipeline
  | buffer
  | components (category : Category)
  | component (category : Category)
  /-- The value of a known type. -/
  | held (category : Category) (type : String)
  /-- The branches of a switch, and one of them. -/
  | branches (category : Category)
  | branch (category : Category)
  | other

def Role.item : Role → Role
  | .components category => .component category
  | .branches category => .branch category
  | .held category type =>
      if Catalog.wrappers.contains type then
        if type = "try" || type = "catch" then .component .processor
        else if type = "fallback" then .component category
        else if type = "switch" then .branch category
        else .other
      else if category = .processor && processorLists.contains type then .component .processor
      else .other
  | _ => .other

def Role.type? (role : Role) (entries : Entries) : Option (String × Category) :=
  match role with
  | .component category =>
      match Catalog.componentType entries with
      | .ok (some type) => some (type, category)
      | _ => none
  | .buffer => entries.head?.map fun entry => (entry.1.display, .buffer)
  | _ => none

def brokerList (category : Category) : String :=
  if category = .input then "inputs" else "outputs"

def hasProcessors (category : Category) : Bool :=
  category = .input || category = .output

-- The key below which components stand in a mapping, and what the check takes the value below it for.
def Role.inside? (role : Role) : Option (String × Role) :=
  match role with
  | .pipeline => some ("processors", .components .processor)
  | .held category type =>
      if Catalog.wrappers.contains type then
        if type = "broker" then some (brokerList category, .components category)
        else if type = "switch" then some ("cases", .branches category)
        else none
      else if category = .processor then some ("processors", .components .processor)
      else none
  | .branch .processor => some ("processors", .components .processor)
  | .branch .output => some ("output", .component .output)
  | _ => none

def Role.field (role : Role) (type : Option (String × Category)) (key : String) : Role :=
  match role with
  | .document =>
      if key = "input" then .component .input
      else if key = "output" then .component .output
      else if key = "pipeline" then .pipeline
      else if key = "buffer" then .buffer
      else ((resourceSections.lookup key).map Role.components).getD .other
  | .component category =>
      if key = "processors" && hasProcessors category then .components .processor
      else if type = some (key, category) && Catalog.isKnown key category then .held category key
      else .other
  | _ =>
      match role.inside? with
      | some (name, inner) => if key = name then inner else .other
      | none => .other

structure ReadKey where
  key : String
  above : List Level
  category : Option Category

def ReadKey.path (key : ReadKey) : KeyPath :=
  (key.key, key.above)

def categoryOf (type : Option (String × Category)) (key : String) : Option Category :=
  match type with
  | some (name, category) => if key = name then some category else none
  | none => none

mutual

def readKeys (role : Role) (above : List Level) : Value → List ReadKey
  | .scalar _ => []
  | .list items => readItems role.item above items
  | .map entries => readEntries role (role.type? entries) above entries

def readItems (role : Role) (above : List Level) : List Value → List ReadKey
  | [] => []
  | item :: items => readKeys role (.item :: above) item ++ readItems role above items

def readEntries (role : Role) (type : Option (String × Category)) (above : List Level) : Entries → List ReadKey
  | [] => []
  | (key, value) :: entries =>
      ⟨key.display, above, categoryOf type key.display⟩ ::
        (readKeys (role.field type key.display) (.key key.display :: above) value ++ readEntries role type above entries)

end

def documentKeys (entries : Entries) : List ReadKey :=
  readKeys .document [] (.map entries)

mutual

theorem read_keys_paths (role : Role) (above : List Level) :
    (value : Value) → (readKeys role above value).map ReadKey.path = keyPaths above value
  | .scalar _ => rfl
  | .list items => read_items_paths role.item above items
  | .map entries => read_entries_paths role (role.type? entries) above entries

theorem read_items_paths (role : Role) (above : List Level) :
    (items : List Value) → (readItems role above items).map ReadKey.path = itemPaths above items
  | [] => rfl
  | item :: items => by
      have first := read_keys_paths role (.item :: above) item
      have others := read_items_paths role above items
      rw [readItems, itemPaths, List.map_append, first, others]

theorem read_entries_paths (role : Role) (type : Option (String × Category)) (above : List Level) :
    (entries : Entries) → (readEntries role type above entries).map ReadKey.path = entryPaths above entries
  | [] => rfl
  | (key, value) :: entries => by
      have first := read_keys_paths (role.field type key.display) (.key key.display :: above) value
      have others := read_entries_paths role type above entries
      rw [readEntries, entryPaths, List.map_cons, List.map_append, first, others]
      rfl

end

-- The places of components that the repair does not take for such.
def Unseen (above : List Level) : Prop :=
  above = [.key "buffer"] ∨ ∃ owner outer, above = .item :: .key owner :: outer ∧ owner ∈ ["fallback", "for_each"]

def Fits (role : Role) (above : List Level) : Prop :=
  match role with
  | .document => above = []
  | .pipeline => above = [.key "pipeline"]
  | .buffer => above = [.key "buffer"]
  | .components category => ∃ owner outer, above = .key owner :: outer ∧ listCategories.lookup owner = some category
  | .component category => componentCategory? above = some category ∨ Unseen above
  | .held category type => ∃ outer, above = .key type :: outer ∧ Catalog.isKnown type category = true
  | .branches _ => ∃ outer, above = .key "cases" :: outer
  | .branch _ => ∃ owner outer, above = .item :: .key owner :: outer ∧ owner ∈ ["switch", "cases"]
  | .other => True

theorem field_of_inside (role : Role) (no_component : ∀ category, role ≠ .component category) (no_document : role ≠ .document)
    (type : Option (String × Category)) (key : String) :
    role.field type key =
      match role.inside? with
      | some (name, inner) => if key = name then inner else .other
      | none => .other := by
  cases role with
  | component category => exact absurd rfl (no_component category)
  | document => exact absurd rfl no_document
  | _ => rfl

theorem fits_branch {condition : Prop} [Decidable condition] {yes no : Role} {above : List Level}
    (one : condition → Fits yes above) (other : ¬ condition → Fits no above) :
    Fits (if condition then yes else no) above := by
  split
  · exact one ‹_›
  · exact other ‹_›

theorem fits_item (role : Role) (above : List Level) (fits : Fits role above) : Fits role.item (.item :: above) := by
  cases role with
  | components category =>
      obtain ⟨owner, outer, rfl, listed⟩ := fits
      exact .inl listed
  | branches category =>
      obtain ⟨outer, rfl⟩ := fits
      exact ⟨"cases", outer, rfl, by simp⟩
  | held category type =>
      obtain ⟨outer, rfl, known⟩ := fits
      refine fits_branch (fun _ => ?_) fun _ => ?_
      · refine fits_branch (fun tried => ?_) fun _ => fits_branch (fun same => ?_) fun _ => ?_
        · refine .inl ?_
          rcases Bool.or_eq_true_iff.mp tried with same | same <;> rw [of_decide_eq_true same] <;> rfl
        · exact .inr (.inr ⟨type, outer, rfl, by simp [same]⟩)
        · exact fits_branch (fun same => ⟨type, outer, rfl, by simp [same]⟩) fun _ => trivial
      · refine fits_branch (fun listed => ?_) fun _ => trivial
        have owner : type ∈ processorLists := List.contains_iff_mem.mp (Bool.and_eq_true_iff.mp listed).2
        simp only [processorLists, List.mem_cons, List.not_mem_nil, or_false] at owner
        rcases owner with rfl | rfl | rfl | rfl
        · exact .inl rfl
        · exact .inl rfl
        · exact .inr (.inr ⟨"for_each", outer, rfl, by simp⟩)
        · exact .inl rfl
  | _ => trivial

theorem broker_category (category : Category) (known : Catalog.isKnown "broker" category = true) :
    listCategories.lookup (brokerList category) = some category := by
  revert known
  cases category <;> decide +kernel

theorem resource_category (key : String) (category : Category) (found : resourceSections.lookup key = some category) :
    listCategories.lookup key = some category := by
  have listed : ∀ entry ∈ resourceSections, listCategories.lookup entry.1 = some entry.2 := by decide
  exact listed (key, category) (Catalog.lookup_entry _ _ _ found)

theorem fits_processors (key : String) (above : List Level) (same : key = "processors") :
    Fits (.components .processor) (.key key :: above) :=
  ⟨key, above, rfl, by rw [same]; rfl⟩

theorem fits_inside (role : Role) (above : List Level) (fits : Fits role above) :
    ∀ name inner, role.inside? = some (name, inner) → Fits inner (.key name :: above) := by
  intro name inner found
  cases role with
  | pipeline =>
      cases found
      exact fits_processors _ above rfl
  | held category type =>
      obtain ⟨outer, rfl, known⟩ := fits
      unfold Role.inside? at found
      simp only at found
      split at found
      · split at found
        · rename_i same
          cases found
          exact ⟨_, _, rfl, broker_category category (same ▸ known)⟩
        · split at found <;> cases found
          exact ⟨_, rfl⟩
      · split at found <;> cases found
        exact fits_processors _ _ rfl
  | branch category =>
      obtain ⟨owner, outer, rfl, -⟩ := fits
      cases category <;> cases found
      · exact fits_processors _ _ rfl
      · exact .inl rfl
  | _ => cases found

theorem fits_field (role : Role) (above : List Level) (fits : Fits role above) (type : Option (String × Category)) (key : String) :
    Fits (role.field type key) (.key key :: above) := by
  have others (no_component : ∀ category, role ≠ .component category) (no_document : role ≠ .document) :
      Fits (role.field type key) (.key key :: above) := by
    rw [field_of_inside role no_component no_document]
    split
    · rename_i name inner found
      refine fits_branch (fun same => ?_) fun _ => trivial
      rw [same]
      exact fits_inside role above fits name inner found
    · trivial
  cases role with
  | document =>
      cases (fits : above = [])
      refine fits_branch (fun same => .inl (by rw [same]; rfl)) fun _ => ?_
      refine fits_branch (fun same => .inl (by rw [same]; rfl)) fun _ => ?_
      refine fits_branch (fun same => congrArg (fun key => [Level.key key]) same) fun _ => ?_
      refine fits_branch (fun same => congrArg (fun key => [Level.key key]) same) fun _ => ?_
      cases found : resourceSections.lookup key with
      | none => trivial
      | some category => exact ⟨key, [], rfl, resource_category key category found⟩
  | component category =>
      refine fits_branch (fun beside => ?_) fun _ => fits_branch (fun typed => ?_) fun _ => trivial
      · exact fits_processors key above (of_decide_eq_true (Bool.and_eq_true_iff.mp beside).1)
      · exact ⟨above, rfl, (Bool.and_eq_true_iff.mp typed).2⟩
  | _ => exact others (by simp) (by simp)

theorem first_type_listed (keys : List Scalar) (name : String) (found : Catalog.firstType? keys = .ok (some name)) :
    .str name ∈ keys ∧ Catalog.isMetadata name = false := by
  fun_induction Catalog.firstType? keys with
  | case1 => cases found
  | case2 key rest metadata ih => exact ⟨List.mem_cons_of_mem _ (ih found).1, (ih found).2⟩
  | case3 key rest no_metadata =>
      cases found
      exact ⟨List.mem_cons_self, by simpa using no_metadata⟩
  | case4 => cases found

def IsType (name : String) : Prop :=
  Catalog.isMetadata name = false ∨ name = "processors"

theorem component_type_name (entries : Entries) (type : String) (typed : Catalog.componentType entries = .ok (some type)) :
    IsType type := by
  unfold Catalog.componentType at typed
  split at typed
  · cases typed
  · rename_i name found
    cases typed
    exact .inl (first_type_listed _ type found).2
  · split at typed <;> cases typed
    exact .inr rfl

def Seen (key : String) (above : List Level) (category : Category) : Prop :=
  (componentCategory? above = some category ∧ IsType key) ∨ Unseen above

theorem category_seen (role : Role) (above : List Level) (fits : Fits role above) (entries : Entries) (key : String)
    (category : Category) (named : categoryOf (role.type? entries) key = some category) : Seen key above category := by
  unfold categoryOf at named
  split at named
  · rename_i name found typed
    split at named
    · rename_i same
      cases named
      cases role with
      | component other =>
          simp only [Role.type?] at typed
          split at typed
          · rename_i type component
            cases typed
            exact (fits : _ ∨ _).imp (fun seen => ⟨seen, same ▸ component_type_name entries _ component⟩) id
          · cases typed
      | buffer => exact .inr (.inl fits)
      | _ => cases typed
    · cases named
  · cases named

mutual

theorem read_keys_seen (role : Role) (above : List Level) (fits : Fits role above) : (value : Value) →
    ∀ key ∈ readKeys role above value, ∀ category, key.category = some category → Seen key.key key.above category
  | .scalar _ => by simp [readKeys]
  | .list items => read_items_seen role.item above (fits_item role above fits) items
  | .map entries => read_entries_seen role _ above fits (category_seen role above fits entries) entries

theorem read_items_seen (role : Role) (above : List Level) (fits : Fits role (.item :: above)) : (items : List Value) →
    ∀ key ∈ readItems role above items, ∀ category, key.category = some category → Seen key.key key.above category
  | [] => by simp [readItems]
  | item :: items => by
      have first := read_keys_seen role (.item :: above) fits item
      have others := read_items_seen role above fits items
      unfold readItems
      exact List.forall_mem_append.mpr ⟨first, others⟩

theorem read_entries_seen (role : Role) (type : Option (String × Category)) (above : List Level) (fits : Fits role above)
    (seen : ∀ key category, categoryOf type key = some category → Seen key above category) : (entries : Entries) →
    ∀ key ∈ readEntries role type above entries, ∀ category, key.category = some category → Seen key.key key.above category
  | [] => by simp [readEntries]
  | (key, value) :: entries => by
      have below := read_keys_seen _ _ (fits_field role above fits type key.display) value
      have others := read_entries_seen role type above fits seen entries
      unfold readEntries
      exact List.forall_mem_cons.mpr ⟨seen key.display, List.forall_mem_append.mpr ⟨below, others⟩⟩

end

end PipelineLint.Repair
