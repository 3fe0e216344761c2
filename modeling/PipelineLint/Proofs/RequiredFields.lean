import PipelineLint.Catalog.Registry
import PipelineLint.Validation.Field

set_option autoImplicit false

namespace PipelineLint

namespace Validation

def requiredOf (fields : List (String × FieldSpec)) : List String :=
  (fields.filter fun field => field.2.required).map Prod.fst

-- A value and what is known of it, and the values inside of it with what is known of them.
inductive Reaches : FieldSpec → Value → FieldSpec → Value → Prop
  | here (spec : FieldSpec) (value : Value) : Reaches spec value spec value
  | item (spec itemSpec : FieldSpec) (items : List Value) (item : Value) (inner : FieldSpec) (value : Value)
      (array : spec.kind = .array) (known : spec.items = some itemSpec) (member : item ∈ items)
      (inside : Reaches itemSpec item inner value) : Reaches spec (.list items) inner value
  | property (spec property : FieldSpec) (entries : Entries) (name : String) (held : Value) (inner : FieldSpec) (value : Value)
      (object : spec.kind = .object) (known : spec.properties.lookup name = some property)
      (member : (.str name, held) ∈ entries) (inside : Reaches property held inner value) :
      Reaches spec (.map entries) inner value

-- Every object in a value, however deep, has the fields that it must have.
def IsComplete (spec : FieldSpec) (value : Value) : Prop :=
  ∀ inner entries, Reaches spec value inner (.map entries) → inner.kind = .object →
    ∀ name ∈ requiredOf inner.properties, Entries.hasField entries name = true

-- A mapping has the fields that a component must have, and so has every object in it. The mapping of a component that is
-- written as a bare value is that value.
def IsCompleteComponent (spec : ComponentSpec) (config : Entries) : Prop :=
  match spec.scalarField? with
  | some field => IsComplete field (.map config)
  | none => (∀ name ∈ spec.requiredFields, Entries.hasField config name = true) ∧
      ∀ name field value, (.str name, value) ∈ config → spec.field? name = some field → IsComplete field value

-- An object has a property that must be given, or one is inside of its properties or of the items of an array.
inductive AsksInside : FieldSpec → Prop
  | here (spec : FieldSpec) (name : String) (object : spec.kind = .object) (asked : name ∈ requiredOf spec.properties) :
      AsksInside spec
  | item (spec inner : FieldSpec) (array : spec.kind = .array) (known : spec.items = some inner) (asks : AsksInside inner) :
      AsksInside spec
  | property (spec inner : FieldSpec) (name : String) (object : spec.kind = .object)
      (known : spec.properties.lookup name = some inner) (asks : AsksInside inner) : AsksInside spec

-- The same for a component and its fields. A bare value can be a mapping only if it is an object.
def ComponentAsksInside (spec : ComponentSpec) : Prop :=
  match spec.scalarField? with
  | some field => field.kind = .object ∧ AsksInside field
  | none => ∃ name field, spec.field? name = some field ∧ AsksInside field

theorem reached_asks (spec inner : FieldSpec) (value held : Value) (reaches : Reaches spec value inner held)
    (asks : AsksInside inner) : AsksInside spec := by
  induction reaches with
  | here => exact asks
  | item spec itemSpec _ _ _ _ array known _ _ ih => exact .item spec itemSpec array known (ih asks)
  | property spec property _ name _ _ _ object known _ _ ih => exact .property spec property name object known (ih asks)

theorem complete_of_unasked (spec : FieldSpec) (value : Value) (unasked : ¬ AsksInside spec) : IsComplete spec value :=
  fun inner _ reaches object name asked => absurd (reached_asks spec inner _ _ reaches (.here inner name object asked)) unasked

theorem complete_of_no_object (spec : FieldSpec) (config : Entries) (kind : spec.kind ≠ .object) :
    IsComplete spec (.map config) := by
  intro inner entries reaches object
  cases reaches with
  | here => exact absurd object kind
  | property _ _ _ _ _ _ _ object => exact absurd object kind

structure PassesIncomplete (spec : FieldSpec) (value : Value) : Prop where
  passes : ∀ path name, valueProblems spec path name value = []
  incomplete : ¬ IsComplete spec value

theorem empty_passes (spec : FieldSpec) (name : String) (object : spec.kind = .object)
    (asked : name ∈ requiredOf spec.properties) : PassesIncomplete spec (.map []) := by
  refine ⟨fun path label => ?_, fun complete => ?_⟩
  · cases known : spec.properties with
    | nil => simp [known, requiredOf] at asked
    | cons property others => simp [valueProblems, object, known, entryProblems]
  · have missing := complete spec [] (.here spec (.map [])) object name asked
    cases missing

theorem item_passes (spec inner : FieldSpec) (value : Value) (array : spec.kind = .array) (known : spec.items = some inner)
    (passes : PassesIncomplete inner value) : PassesIncomplete spec (.list [value]) := by
  refine ⟨fun path label => ?_, fun complete => passes.incomplete fun deeper entries reaches => ?_⟩
  · simp [valueProblems, array, known, itemProblems, passes.passes]
  · exact complete deeper entries (.item spec inner _ value deeper _ array known List.mem_cons_self reaches)

theorem property_passes (spec inner : FieldSpec) (name : String) (value : Value) (object : spec.kind = .object)
    (known : spec.properties.lookup name = some inner) (passes : PassesIncomplete inner value) :
    PassesIncomplete spec (.map [(.str name, value)]) := by
  refine ⟨fun path label => ?_, fun complete => passes.incomplete fun deeper entries reaches => ?_⟩
  · cases listed : spec.properties with
    | nil => simp [listed] at known
    | cons property others =>
        rw [listed] at known
        simp [valueProblems, object, listed, entryProblems, known, passes.passes]
  · exact complete deeper entries (.property spec inner _ name value deeper _ object known List.mem_cons_self reaches)

theorem asks_passes (spec : FieldSpec) (asks : AsksInside spec) : ∃ value, PassesIncomplete spec value := by
  induction asks with
  | here spec name object asked => exact ⟨_, empty_passes spec name object asked⟩
  | item spec inner array known _ ih =>
      obtain ⟨value, passes⟩ := ih
      exact ⟨_, item_passes spec inner value array known passes⟩
  | property spec inner name object known _ ih =>
      obtain ⟨value, passes⟩ := ih
      exact ⟨_, property_passes spec inner name value object known passes⟩

theorem incomplete_object (spec : FieldSpec) (value : Value) (object : spec.kind = .object)
    (incomplete : ¬ IsComplete spec value) : ∃ entries, value = .map entries := by
  cases value with
  | map entries => exact ⟨entries, rfl⟩
  | scalar s => exact absurd (fun _ _ reaches => nomatch reaches) incomplete
  | list items =>
      refine absurd (fun inner entries reaches => ?_) incomplete
      cases reaches with
      | item _ _ _ _ _ _ array => rw [object] at array; cases array

theorem required_specified (fields : List (String × FieldSpec)) (name : String) (required : name ∈ requiredOf fields) :
    ∃ spec, fields.lookup name = some spec := by
  obtain ⟨field, member, rfl⟩ := List.mem_map.mp required
  refine Option.ne_none_iff_exists'.mp fun missing => ?_
  simpa using List.lookup_eq_none_iff.mp missing field (List.mem_filter.mp member).1

theorem entry_problems_none (fields : List (String × FieldSpec)) (path : String) (entries : Entries)
    (passes : ∀ name value, (.str name, value) ∈ entries → ∀ spec, fields.lookup name = some spec →
      ∀ path label, valueProblems spec path label value = []) : entryProblems fields path entries = [] := by
  induction entries with
  | nil => rfl
  | cons entry rest ih =>
      obtain ⟨key, value⟩ := entry
      unfold entryProblems
      rw [ih fun name value member => passes name value (List.mem_cons_of_mem _ member), List.append_nil]
      split
      · rename_i name
        split
        · rename_i spec known
          exact passes name value List.mem_cons_self spec known _ _
        · rfl
      · rfl

theorem required_given (spec : ComponentSpec) (path : String) (config : Entries) (plain : spec.scalarField? = none)
    (nothing : componentProblems spec path (.map config) = []) :
    ∀ name ∈ spec.requiredFields, Entries.hasField config name = true := by
  rw [componentProblems, plain] at nothing
  simp only [mappingProblems, List.append_eq_nil_iff, List.map_eq_nil_iff, List.filter_eq_nil_iff] at nothing
  exact fun name required => by simpa using nothing.1.1 name required

def onlyField (spec : ComponentSpec) (name : String) (value : Value) : Entries :=
  (.str name, value) :: (spec.requiredFields.filter (· ≠ name)).map fun other => (.str other, .null)

theorem only_field_key (spec : ComponentSpec) (name : String) (value : Value) (key : Scalar) :
    key ∈ Entries.keys (onlyField spec name value) ↔ ∃ other, key = .str other ∧ (other = name ∨ other ∈ spec.requiredFields) := by
  simp only [onlyField, Entries.keys, List.map_cons, List.map_map, List.mem_cons, List.mem_map, List.mem_filter,
    Function.comp_apply, decide_eq_true_eq]
  constructor
  · rintro (rfl | ⟨other, ⟨required, -⟩, rfl⟩)
    · exact ⟨name, rfl, .inl rfl⟩
    · exact ⟨other, rfl, .inr required⟩
  · rintro ⟨other, rfl, rfl | required⟩
    · exact .inl rfl
    · by_cases same : other = name
      · exact .inl (congrArg Scalar.str same)
      · exact .inr ⟨other, ⟨required, same⟩, rfl⟩

theorem only_field_passes (spec : ComponentSpec) (path name : String) (field : FieldSpec) (value : Value)
    (plain : spec.scalarField? = none) (known : spec.field? name = some field)
    (passes : ∀ path name, valueProblems field path name value = []) :
    componentProblems spec path (.map (onlyField spec name value)) = [] := by
  have required : (spec.requiredFields.filter fun other => !Entries.hasField (onlyField spec name value) other) = [] := by
    refine List.filter_eq_nil_iff.mpr fun other member => ?_
    simp [(Entries.hasField_iff _ other).mpr ((only_field_key spec name value _).mpr ⟨other, rfl, .inr member⟩)]
  have fields : ((Entries.keys (onlyField spec name value)).filter fun key => !isField spec key) = [] := by
    refine List.filter_eq_nil_iff.mpr fun key member => ?_
    obtain ⟨other, rfl, rfl | must⟩ := (only_field_key spec name value key).mp member
    · simp [isField, known]
    · obtain ⟨found, specified⟩ := required_specified spec.fields other must
      simp [isField, ComponentSpec.field?, specified]
  have values : entryProblems spec.fields path (onlyField spec name value) = [] := by
    refine entry_problems_none spec.fields path _ fun other held member found specified => ?_
    rcases List.mem_cons.mp member with same | null
    · cases same
      obtain rfl : field = found := Option.some.inj (known.symm.trans specified)
      exact passes
    · obtain ⟨_, -, same⟩ := List.mem_map.mp null
      cases same
      exact fun _ _ => rfl
  rw [componentProblems, plain]
  simp only [mappingProblems, required, fields, values, List.map_nil, List.append_nil]

-- Where something is asked for inside a component, there is a mapping without errors that has not got it.
theorem component_asks_passes (spec : ComponentSpec) (path : String) (asks : ComponentAsksInside spec) :
    ∃ config, componentProblems spec path (.map config) = [] ∧ ¬ IsCompleteComponent spec config := by
  unfold ComponentAsksInside at asks
  unfold IsCompleteComponent
  split at asks
  · rename_i field bare
    obtain ⟨object, asks⟩ := asks
    obtain ⟨value, passes⟩ := asks_passes field asks
    obtain ⟨config, rfl⟩ := incomplete_object field value object passes.incomplete
    refine ⟨config, ?_, ?_⟩
    · rw [componentProblems, bare]
      exact passes.passes path spec.name
    · exact passes.incomplete
  · rename_i plain
    obtain ⟨name, field, known, asks⟩ := asks
    obtain ⟨value, passes⟩ := asks_passes field asks
    refine ⟨onlyField spec name value, only_field_passes spec path name field value plain known passes.passes, ?_⟩
    exact fun complete => passes.incomplete (complete.2 name field value List.mem_cons_self known)

theorem complete_of_component_unasked (spec : ComponentSpec) (path : String) (config : Entries)
    (unasked : ¬ ComponentAsksInside spec) (nothing : componentProblems spec path (.map config) = []) :
    IsCompleteComponent spec config := by
  unfold ComponentAsksInside at unasked
  unfold IsCompleteComponent
  split at unasked
  · rename_i field bare
    by_cases object : field.kind = .object
    · exact complete_of_unasked field _ fun asks => unasked ⟨object, asks⟩
    · exact complete_of_no_object field config object
  · rename_i plain
    exact ⟨required_given spec path config plain nothing, fun name field value _ known =>
      complete_of_unasked field value fun asks => unasked ⟨name, field, known, asks⟩⟩

-- A component without errors has all the fields that it must have, and what is in it is complete as well exactly if nothing is
-- asked for inside of its fields.
theorem required_fields_given_iff (spec : ComponentSpec) :
    (∀ path config, componentProblems spec path (.map config) = [] → spec.scalarField? = none →
      ∀ name ∈ spec.requiredFields, Entries.hasField config name = true) ∧
    ((∀ path config, componentProblems spec path (.map config) = [] → IsCompleteComponent spec config) ↔
      ¬ ComponentAsksInside spec) := by
  refine ⟨fun path config nothing plain => required_given spec path config plain nothing, fun complete asks => ?_,
    fun unasked path config nothing => complete_of_component_unasked spec path config unasked nothing⟩
  obtain ⟨config, nothing, incomplete⟩ := component_asks_passes spec "" asks
  exact incomplete (complete "" config nothing)

def queueWithoutAddress : Entries := [(.str "bucket", .str "orders"), (.str "sqs", .map [])]

theorem queue_passes (path : String) :
    componentProblems Catalog.awsS3Input path (.map queueWithoutAddress) = [] := rfl

theorem required_fields_given_iff_queue :
    componentProblems Catalog.awsS3Input "input.aws_s3" (.map queueWithoutAddress) = [] ∧
      Catalog.awsS3Input.scalarField? = none ∧ "bucket" ∈ Catalog.awsS3Input.requiredFields ∧
      Entries.hasField queueWithoutAddress "bucket" = true ∧ ComponentAsksInside Catalog.awsS3Input ∧
      ¬ ∀ path config, componentProblems Catalog.awsS3Input path (.map config) = [] →
        IsCompleteComponent Catalog.awsS3Input config := by
  have plain : Catalog.awsS3Input.scalarField? = none := rfl
  have bucket : "bucket" ∈ Catalog.awsS3Input.requiredFields := by decide
  have asks : ComponentAsksInside Catalog.awsS3Input := by
    unfold ComponentAsksInside
    rw [plain]
    exact ⟨"sqs", _, rfl, .here _ "url" rfl (by decide)⟩
  have given := required_fields_given_iff Catalog.awsS3Input
  exact ⟨queue_passes _, plain, bucket, given.1 _ _ (queue_passes "input.aws_s3") plain "bucket" bucket, asks,
    fun complete => given.2.mp complete asks⟩

-- The address must be given, and nothing says that it is missing.
theorem queue_address_not_missed : Catalog.specIn? "aws_s3" .input = some Catalog.awsS3Input ∧
    componentProblems Catalog.awsS3Input "input.aws_s3" (.map queueWithoutAddress) = [] ∧
    ¬ IsCompleteComponent Catalog.awsS3Input queueWithoutAddress := by
  refine ⟨rfl, queue_passes _, fun complete => ?_⟩
  unfold IsCompleteComponent at complete
  rw [show Catalog.awsS3Input.scalarField? = none from rfl] at complete
  have queue := complete.2 "sqs" _ (.map []) (List.mem_cons_of_mem _ List.mem_cons_self) rfl
  have address := queue _ [] (.here _ _) rfl "url" (by decide)
  cases address

end Validation

end PipelineLint
