import PipelineLint.Catalog.Registry
import PipelineLint.Proofs.CorrectedKeys

set_option autoImplicit false

namespace PipelineLint.Repair

open Validation

theorem renaming_replacement (key name : String) (above : List Level) (pass : Nat)
    (due : renaming? key above = some (pass, name)) :
    Catalog.isMetadata key = false ∧ ∃ category, Catalog.componentReplacement? key category = some name := by
  unfold renaming? at due
  split at due
  · cases due
  · rename_i no_metadata
    refine ⟨by simpa using no_metadata, ?_⟩
    split at due
    · rename_i category _
      obtain ⟨target, replaced, same⟩ := Option.map_eq_some_iff.mp due
      cases same
      exact ⟨category, replaced⟩
    · split at due
      · split at due
        · obtain ⟨category, -, mapped⟩ := Option.bind_eq_some_iff.mp due
          obtain ⟨target, replaced, same⟩ := Option.map_eq_some_iff.mp mapped
          cases same
          exact ⟨category, replaced⟩
        · cases due
      · cases due

-- Names that no category has a better one for: those of expressions, and those that hold parts of components.
def keptNames : List String :=
  expressionKeys ++ [queryKey, "switch", "cases", "fallback", "for_each"]

theorem kept_names : ∀ name ∈ keptNames, ∀ category ∈ Category.all, Catalog.componentReplacement? name category = none := by
  simp only [Catalog.component_replacement_eq]
  decide +kernel

theorem kept_never (name : String) (above : List Level) (kept : name ∈ keptNames) : renaming? name above = none := by
  cases due : renaming? name above with
  | none => rfl
  | some pair =>
      obtain ⟨-, category, replaced⟩ := renaming_replacement name pair.2 above pair.1 due
      rw [kept_names name kept category (Category.mem_all category)] at replaced
      cases replaced

-- Levels below which no key is ever renamed.
def Still (above : List Level) : Prop :=
  ∀ key, renaming? key above = none

theorem still_top : Still [] := fun key => renaming_nowhere key [] rfl (by simp)

theorem still_below_key (owner : String) (outer : List Level) (plain : sectionCategories.lookup owner = none) :
    Still (.key owner :: outer) := by
  have nowhere : componentCategory? (.key owner :: outer) = none := by
    match outer with
    | [] => exact plain
    | .item :: _ => exact plain
    | .key _ :: _ => rfl
  exact fun key => renaming_nowhere key _ nowhere (by simp)

theorem still_in_list (owner : String) (outer : List Level) (plain : listCategories.lookup owner = none)
    (kept : renaming? owner outer = none) : Still (.item :: .key owner :: outer) := by
  intro key
  rw [renaming_held key owner outer plain, kept]
  simp

section Still

variable (count : Nat) {above : List Level} (still : Still above)

include still

theorem key_after_still (key : Scalar) : keyAfter count above key = key := by
  cases key with
  | str name => exact congrArg Scalar.str (name_after_never count name above (still name))
  | _ => rfl

theorem keys_still (entries : Entries) : Entries.keys (entriesAfter count above entries) = Entries.keys entries := by
  rw [entries_after_keys]
  exact List.map_id'' (key_after_still count still) _

theorem has_field_still (entries : Entries) (name : String) :
    Entries.hasField (entriesAfter count above entries) name = Entries.hasField entries name := by
  rw [Bool.eq_iff_iff, Entries.hasField_iff, Entries.hasField_iff, keys_still count still]

end Still

theorem key_after_iff (count : Nat) (above : List Level) (name : String) (kept : renaming? name above = none)
    (new : ∀ key pass, renaming? key above ≠ some (pass, name)) (key : Scalar) :
    keyAfter count above key = .str name ↔ key = .str name := by
  constructor
  · intro same
    cases key with
    | str text =>
        rcases name_after_cases count text above with still | ⟨pass, -, due⟩
        · rw [← same, keyAfter, still]
        · rw [show nameAfter count text above = name from Scalar.str.inj same] at due
          exact absurd due (new text pass)
    | _ => exact same
  · rintro rfl
    exact congrArg Scalar.str (name_after_never count name above kept)

theorem field_corrected (count : Nat) (above : List Level) (entries : Entries) (name : String)
    (same : ∀ key ∈ Entries.keys entries, keyAfter count above key = .str name ↔ key = .str name) :
    Entries.field? (entriesAfter count above entries) name =
      (Entries.field? entries name).map (valueAfter count (.key name :: above)) := by
  induction entries with
  | nil => rfl
  | cons entry entries ih =>
      obtain ⟨key, value⟩ := entry
      obtain ⟨here, others⟩ := List.forall_mem_cons.mp same
      have rest := ih others
      unfold Entries.field? Entries.get? at rest ⊢
      rw [entriesAfter, List.find?_cons, List.find?_cons]
      by_cases named : key = .str name
      · have found := (Scalar.sameKey_str_iff _ name).mpr (here.mpr named)
        simp only [found, (Scalar.sameKey_str_iff key name).mpr named, Option.map_some]
        rw [named]
        rfl
      · have missed : key.sameKey (.str name) = false := by
          simpa using mt (Scalar.sameKey_str_iff key name).mp named
        have also : (keyAfter count above key).sameKey (.str name) = false := by
          simpa using mt (Scalar.sameKey_str_iff _ name).mp (mt here.mp named)
        simp only [missed, also]
        exact rest

theorem field_still (count : Nat) {above : List Level} (still : Still above) (entries : Entries) (name : String) :
    Entries.field? (entriesAfter count above entries) name =
      (Entries.field? entries name).map (valueAfter count (.key name :: above)) :=
  field_corrected count above entries name fun key _ => by rw [key_after_still count still]

inductive Steady : List Level → FieldSpec → Prop where
  | of (above : List Level) (spec : FieldSpec) : (spec.properties ≠ [] → Still above) →
      (∀ name property, spec.properties.lookup name = some property → Steady (.key name :: above) property) →
      (∀ item, spec.items = some item → Steady (.item :: above) item) → Steady above spec

theorem own_problem_part (spec : FieldSpec) (path name : String) (value other : Value)
    (part : (∃ items others, value = .list items ∧ other = .list others) ∨
      ∃ entries others, value = .map entries ∧ other = .map others)
    (nothing : (ownProblem? value spec path name).toList = []) : (ownProblem? other spec path name).toList = [] := by
  rw [Option.toList_eq_nil_iff] at nothing ⊢
  unfold ownProblem? at nothing
  split at nothing
  · cases nothing
  · rename_i kind
    have same : kindProblem? other spec path name = none := by
      unfold kindProblem? at kind ⊢
      rcases part with ⟨items, others, rfl, rfl⟩ | ⟨entries, others, rfl, rfl⟩ <;> simp only at kind ⊢ <;>
        split at kind <;> simp_all
    rw [ownProblem?, same]
    rcases part with ⟨items, others, rfl, rfl⟩ | ⟨entries, others, rfl, rfl⟩
    · exact choiceProblem?_list others spec path name
    · exact choiceProblem?_map others spec path name

mutual

theorem value_problems_corrected (count : Nat) {above : List Level} {spec : FieldSpec} (steady : Steady above spec)
    (path name : String) : (value : Value) → valueProblems spec path name value = [] →
      valueProblems spec path name (valueAfter count above value) = []
  | .scalar _ => id
  | .list items => fun nothing => by
      obtain ⟨_, _, _, _, inside⟩ := steady
      unfold valueProblems at nothing
      unfold valueAfter valueProblems
      split
      · rename_i field kind listed
        simp only [kind, listed] at nothing
        exact item_problems_corrected count (inside field listed) path name 0 items nothing
      · rename_i no_items
        split at nothing
        · rename_i field kind listed
          exact absurd listed (no_items field kind)
        · exact own_problem_part spec path name _ _ (.inl ⟨_, _, rfl, rfl⟩) nothing
  | .map entries => fun nothing => by
      obtain ⟨_, _, still, inside, _⟩ := steady
      unfold valueProblems at nothing
      unfold valueAfter valueProblems
      split
      · rename_i property properties kind listed
        simp only [kind, listed] at nothing
        rw [listed] at still inside
        exact entry_problems_corrected count (still (by simp)) inside path entries nothing
      · rename_i no_properties
        split at nothing
        · rename_i property properties kind listed
          exact absurd listed (no_properties property properties kind)
        · exact own_problem_part spec path name _ _ (.inr ⟨_, _, rfl, rfl⟩) nothing

theorem item_problems_corrected (count : Nat) {above : List Level} {spec : FieldSpec} (steady : Steady (.item :: above) spec)
    (path name : String) (index : Nat) : (items : List Value) → itemProblems spec path name index items = [] →
      itemProblems spec path name index (itemsAfter count above items) = []
  | [] => id
  | item :: items => fun nothing => by
      unfold itemProblems at nothing
      unfold itemsAfter itemProblems
      obtain ⟨first, others⟩ := List.append_eq_nil_iff.mp nothing
      rw [value_problems_corrected count steady _ _ item first,
        item_problems_corrected count steady path name (index + 1) items others]
      rfl

theorem entry_problems_corrected (count : Nat) {above : List Level} (still : Still above) {fields : List (String × FieldSpec)}
    (steady : ∀ name field, fields.lookup name = some field → Steady (.key name :: above) field) (path : String) :
    (entries : Entries) → entryProblems fields path entries = [] →
      entryProblems fields path (entriesAfter count above entries) = []
  | [] => id
  | (key, value) :: entries => fun nothing => by
      unfold entryProblems at nothing
      unfold entriesAfter entryProblems
      obtain ⟨first, others⟩ := List.append_eq_nil_iff.mp nothing
      rw [entry_problems_corrected count still steady path entries others, List.append_nil, key_after_still count still]
      split
      · rename_i name
        split
        · rename_i field found
          simp only [found] at first
          exact value_problems_corrected count (steady name field found) _ name value first
        · rfl
      · rfl

end

mutual

-- Whether the check of a field below a key of some name looks into no object whose keys may be renamed: one below a
-- section, or one in a list of components.
def isSteady (owner : String) : FieldSpec → Bool
  | ⟨_, _, _, _, _, items, properties, _⟩ =>
      (sectionCategories.lookup owner).isNone && areSteady properties && itemsSteady owner items
termination_by structural spec => spec

def itemsSteady (owner : String) : Option FieldSpec → Bool
  | none => true
  | some ⟨_, _, _, _, _, items, properties, _⟩ =>
      items.isNone && areSteady properties && (properties.isEmpty || (listCategories.lookup owner).isNone)
termination_by structural items => items

def areSteady : List (String × FieldSpec) → Bool
  | [] => true
  | (name, spec) :: rest => isSteady name spec && areSteady rest
termination_by structural fields => fields

end

mutual

theorem field_steady (owner : String) (outer : List Level) (kept : renaming? owner outer = none) :
    (spec : FieldSpec) → isSteady owner spec = true → Steady (.key owner :: outer) spec
  | ⟨kind, description, required, default, enum, items, properties, examples⟩ => fun checked => by
      unfold isSteady at checked
      simp only [Bool.and_eq_true, Option.isNone_iff_eq_none] at checked
      obtain ⟨⟨plain, inside⟩, listed⟩ := checked
      have still := still_below_key owner outer plain
      refine .of _ _ (fun _ => still) (fun name property found => ?_) ?_
      · exact fields_steady properties inside name property found _ (still name)
      · exact items_steady owner outer kept items listed

theorem items_steady (owner : String) (outer : List Level) (kept : renaming? owner outer = none) :
    (items : Option FieldSpec) → itemsSteady owner items = true →
      ∀ item, items = some item → Steady (.item :: .key owner :: outer) item
  | none => fun _ _ => nofun
  | some ⟨kind, description, required, default, enum, items, properties, examples⟩ => fun checked item same => by
      obtain rfl := Option.some.inj same
      unfold itemsSteady at checked
      simp only [Bool.and_eq_true, Option.isNone_iff_eq_none, Bool.or_eq_true, List.isEmpty_iff] at checked
      obtain ⟨⟨no_items, inside⟩, bare⟩ := checked
      have still (some_property : properties ≠ []) : Still (.item :: .key owner :: outer) :=
        still_in_list owner outer (bare.resolve_left some_property) kept
      refine .of _ _ still (fun name property found => ?_) fun inner one => ?_
      · have some_property : properties ≠ [] := by
          rintro rfl
          cases found
        exact fields_steady properties inside name property found _ (still some_property name)
      · rw [no_items] at one
        cases one

theorem fields_steady : (fields : List (String × FieldSpec)) → areSteady fields = true →
    ∀ name field, fields.lookup name = some field → ∀ outer, renaming? name outer = none → Steady (.key name :: outer) field
  | [] => fun _ _ _ => nofun
  | (label, spec) :: rest => fun checked name field found outer kept => by
      unfold areSteady at checked
      obtain ⟨first, others⟩ := Bool.and_eq_true_iff.mp checked
      rw [List.lookup_cons] at found
      split at found
      · rename_i same
        obtain rfl := beq_iff_eq.mp same
        cases found
        exact field_steady name outer kept spec first
      · exact fields_steady rest others name field found outer kept

end

def isSteadyComponent (spec : ComponentSpec) : Bool :=
  areSteady spec.fields && spec.scalarField?.all (isSteady spec.name)

theorem catalog_steady (category : Category) : ∀ spec ∈ Catalog.specs category, isSteadyComponent spec = true := by
  cases category <;> decide +kernel

section Component

variable (count : Nat) (spec : ComponentSpec) (outer : List Level) (steady : isSteadyComponent spec = true)
  (plain : sectionCategories.lookup spec.name = none) (kept : renaming? spec.name outer = none)

include steady kept in
theorem scalar_problems_corrected (field : FieldSpec) (bare : spec.scalarField? = some field) (path : String) (value : Value)
    (nothing : scalarProblems spec field path value = []) :
    scalarProblems spec field path (valueAfter count (.key spec.name :: outer) value) = [] := by
  have listed := (Bool.and_eq_true_iff.mp steady).2
  rw [bare] at listed
  have inside := field_steady spec.name outer kept field listed
  cases value with
  | scalar s => exact nothing
  | list items => exact value_problems_corrected count inside path spec.name (.list items) nothing
  | map entries => exact value_problems_corrected count inside path spec.name (.map entries) nothing

include steady plain in
theorem mapping_problems_corrected (path : String) (entries : Entries) (nothing : mappingProblems spec path entries = []) :
    mappingProblems spec path (entriesAfter count (.key spec.name :: outer) entries) = [] := by
  have fields := (Bool.and_eq_true_iff.mp steady).1
  have still := still_below_key spec.name outer plain
  unfold mappingProblems at nothing ⊢
  obtain ⟨names, values⟩ := List.append_eq_nil_iff.mp nothing
  rw [keys_still count still, funext (has_field_still count still entries), names, List.nil_append]
  exact entry_problems_corrected count still (fun name field found => fields_steady spec.fields fields name field found _
    (still name)) path entries values

include steady plain kept in
theorem component_problems_corrected (path : String) (value : Value) (nothing : componentProblems spec path value = []) :
    componentProblems spec path (valueAfter count (.key spec.name :: outer) value) = [] := by
  unfold componentProblems at nothing ⊢
  split
  · rename_i field bare
    simp only [bare] at nothing
    exact scalar_problems_corrected count spec outer steady kept field bare path value nothing
  · rename_i unwritten
    simp only [unwritten] at nothing
    cases value with
    | scalar s => exact nothing
    | list items => cases nothing
    | map entries => exact mapping_problems_corrected count spec outer steady plain path entries nothing

end Component

end PipelineLint.Repair
