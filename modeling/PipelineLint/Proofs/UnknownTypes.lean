import PipelineLint.Proofs.Answers

set_option autoImplicit false

namespace PipelineLint.Validation

def unknownStart (category : Category) : List Char :=
  ("Unknown " ++ category.label ++ " type: \"").toList

def unknownName? (message : List Char) (category : Category) : Option String :=
  if (unknownStart category).isPrefixOf message && message.getLast? = some '"' then
    some (String.ofList (message.drop (unknownStart category).length).dropLast)
  else none

def reported? (problem : Problem) : Option (String × Category) :=
  Category.all.findSome? fun category => (unknownName? problem.message.toList category).map (·, category)

theorem unknown_starts_apart (first second : Category) (differ : first ≠ second) (text : List Char) :
    (unknownStart first).isPrefixOf (unknownStart second ++ text) = false := by
  cases first <;> cases second <;> first | exact absurd rfl differ | rfl

theorem reported_unknown (path name : String) (category : Category) (suggestion : Option String) :
    reported? ⟨path, "Unknown " ++ category.label ++ " type: \"" ++ name ++ "\"", suggestion⟩ = some (name, category) := by
  have message : ("Unknown " ++ category.label ++ " type: \"" ++ name ++ "\"").toList =
      unknownStart category ++ (name.toList ++ ['"']) := by
    rw [String.toList_append, String.toList_append, List.append_assoc]
    rfl
  have here : unknownName? (unknownStart category ++ (name.toList ++ ['"'])) category = some name := by
    have last : (unknownStart category ++ (name.toList ++ ['"'])).getLast? = some '"' := by
      rw [← List.append_assoc, List.getLast?_append]
      rfl
    have starts : (unknownStart category).isPrefixOf (unknownStart category ++ (name.toList ++ ['"'])) = true :=
      List.isPrefixOf_iff_prefix.mpr (List.prefix_append _ _)
    simp [unknownName?, last, starts]
  have others (other : Category) (differ : other ≠ category) :
      unknownName? (unknownStart category ++ (name.toList ++ ['"'])) other = none := by
    simp [unknownName?, unknown_starts_apart other category differ]
  unfold reported?
  simp only [message]
  cases category <;> simp [Category.all, here, others]

def IsOther (message : String) : Prop :=
  ∀ category, unknownName? message.toList category = none

theorem other_start (start rest : String)
    (apart : ∀ category ∈ Category.all, ((unknownStart category).take start.toList.length).isPrefixOf start.toList = false) :
    IsOther (start ++ rest) := by
  intro category
  rw [unknownName?, if_neg]
  intro both
  obtain ⟨tail, whole⟩ := List.isPrefixOf_iff_prefix.mp (Bool.and_eq_true_iff.mp both).1
  have short : ((unknownStart category).take start.toList.length).isPrefixOf start.toList = true := by
    refine List.isPrefixOf_iff_prefix.mpr ⟨tail.take (start.toList.length - (unknownStart category).length), ?_⟩
    rw [← List.take_append, whole, String.toList_append, List.take_left]
  exact absurd short (by simp [apart category (Category.mem_all category)])

theorem other_head (c : Char) (letters : List Char) (rest : String) (differs : c ≠ 'U') :
    IsOther (String.ofList (c :: letters) ++ rest) := by
  intro category
  obtain ⟨more, begins⟩ : ∃ more, unknownStart category = 'U' :: more := by
    cases category <;> exact ⟨_, rfl⟩
  simp [unknownName?, String.toList_append, begins, differs.symm]

theorem other_whole (c : Char) (letters : List Char) (differs : c ≠ 'U') : IsOther (String.ofList (c :: letters)) := by
  simpa only [String.append_empty] using other_head c letters "" differs

theorem other_end (message : String) (ends : message.toList.getLast? ≠ some '"') : IsOther message := by
  intro category
  simp [unknownName?, ends]

theorem other_unreported (problem : Problem) (other : IsOther problem.message) : reported? problem = none := by
  unfold reported?
  rw [List.findSome?_eq_none_iff]
  intro category _
  rw [other category]
  rfl

def AllOther (problems : List Problem) : Prop :=
  ∀ problem ∈ problems, IsOther problem.message

theorem all_other_unreported (problems : List Problem) (others : AllOther problems) : problems.filterMap reported? = [] :=
  List.filterMap_eq_nil_iff.mpr fun problem member => other_unreported problem (others problem member)

theorem all_other_append (first second : List Problem) (one : AllOther first) (other : AllOther second) :
    AllOther (first ++ second) :=
  List.forall_mem_append.mpr ⟨one, other⟩

theorem kind_problem_cases (value : Value) (spec : FieldSpec) (path name : String) :
    kindProblem? value spec path name = none ∨ kindProblem? value spec path name = some (mismatch value spec path name) ∨
      (∃ text, kindProblem? value spec path name = some (durationTextProblem text path name)) ∨
        kindProblem? value spec path name = some (durationKindProblem value path name) := by
  unfold kindProblem?
  simp only
  split <;> (try split) <;> simp
  exact .inr (.inl ⟨_, rfl⟩)

theorem kind_problem_other (value : Value) (spec : FieldSpec) (path name : String) :
    AllOther (kindProblem? value spec path name).toList := by
  rcases kind_problem_cases value spec path name with none_found | found | ⟨text, found⟩ | found
  · simp [none_found, AllOther]
  · rw [found]
    refine List.forall_mem_singleton.mpr ?_
    simpa only [mismatch, String.append_assoc] using other_head 'I' _ _ (by decide)
  · rw [found]
    refine List.forall_mem_singleton.mpr ?_
    simpa only [durationTextProblem, String.append_assoc] using other_head 'I' _ _ (by decide)
  · rw [found]
    refine List.forall_mem_singleton.mpr ?_
    simpa only [durationKindProblem, String.append_assoc] using other_head 'I' _ _ (by decide)

theorem choice_problem_other (value : Value) (spec : FieldSpec) (path name : String) :
    AllOther (choiceProblem? value spec path name).toList := by
  intro problem member
  rw [Option.mem_toList] at member
  unfold choiceProblem? at member
  simp only at member
  split at member
  · cases member
  · cases member
    simpa only [String.append_assoc] using other_head 'I' _ _ (by decide)

theorem own_problem_other (value : Value) (spec : FieldSpec) (path name : String) :
    AllOther (ownProblem? value spec path name).toList := by
  have kind := kind_problem_other value spec path name
  unfold ownProblem?
  split
  · rename_i problem found
    rwa [found] at kind
  · exact choice_problem_other value spec path name

mutual

theorem value_problems_other (spec : FieldSpec) (path name : String) :
    (value : Value) → AllOther (valueProblems spec path name value)
  | .scalar s => by
      cases s with
      | null => exact fun _ member => absurd member (by simp [valueProblems])
      | _ => exact own_problem_other _ spec path name
  | .list items => by
      have inside (spec : FieldSpec) := item_problems_other spec path name 0 items
      unfold valueProblems
      split
      · exact inside _
      · exact own_problem_other _ spec path name
  | .map entries => by
      have inside (fields : List (String × FieldSpec)) := entry_problems_other fields path entries
      unfold valueProblems
      split
      · exact inside _
      · exact own_problem_other _ spec path name

theorem item_problems_other (spec : FieldSpec) (path name : String) (index : Nat) :
    (items : List Value) → AllOther (itemProblems spec path name index items)
  | [] => fun _ member => absurd member (by simp [itemProblems])
  | item :: items => by
      have first := value_problems_other spec (indexed path index) (indexed name index) item
      have others := item_problems_other spec path name (index + 1) items
      unfold itemProblems
      exact all_other_append _ _ first others

theorem entry_problems_other (fields : List (String × FieldSpec)) (path : String) :
    (entries : Entries) → AllOther (entryProblems fields path entries)
  | [] => fun _ member => absurd member (by simp [entryProblems])
  | (key, value) :: entries => by
      have first (spec : FieldSpec) (name : String) := value_problems_other spec (keyed path name) name value
      have others := entry_problems_other fields path entries
      unfold entryProblems
      refine all_other_append _ _ ?_ others
      split
      · split
        · exact first _ _
        · simp [AllOther]
      · simp [AllOther]

end

theorem scalar_problems_other (spec : ComponentSpec) (field : FieldSpec) (path : String) (value : Value) :
    AllOther (scalarProblems spec field path value) := by
  have missing : AllOther (if field.required then
      [⟨path, "Missing value for \"" ++ spec.name ++ "\"", some ("Add: " ++ spec.name ++ ": " ++ exampleText field)⟩]
      else []) := by
    split
    · refine List.forall_mem_singleton.mpr ?_
      simpa only [String.append_assoc] using other_head 'M' _ _ (by decide)
    · simp [AllOther]
  unfold scalarProblems
  simp only
  split
  · exact missing
  · split
    · exact missing
    · exact value_problems_other field path spec.name _
  · exact value_problems_other field path spec.name _

theorem mapping_problems_other (spec : ComponentSpec) (path : String) (entries : Entries) :
    AllOther (mappingProblems spec path entries) := by
  unfold mappingProblems
  refine all_other_append _ _ (all_other_append _ _ ?_ ?_) (entry_problems_other spec.fields path entries)
  · refine List.forall_mem_map.mpr fun name _ => ?_
    simpa only [missingField, String.append_assoc] using other_head 'M' _ _ (by decide)
  · refine List.forall_mem_map.mpr fun key _ => ?_
    simpa only [unknownField, String.append_assoc] using other_start "Unknown field \"" _ (by decide)

theorem component_problems_other (spec : ComponentSpec) (path : String) (value : Value) :
    AllOther (componentProblems spec path value) := by
  unfold componentProblems
  split
  · exact scalar_problems_other spec _ path value
  · split
    · exact mapping_problems_other spec path []
    · exact mapping_problems_other spec path _
    · refine List.forall_mem_singleton.mpr ?_
      simpa only [String.append_assoc] using other_head '\"' [] _ (by decide)

theorem field_problems_other (path : String) (category : Category) (name : String) (value : Value) :
    AllOther (fieldProblems path category name value) := by
  unfold fieldProblems
  split
  · simp [AllOther]
  · split
    · exact component_problems_other _ path value
    · simp [AllOther]

theorem section_key_problems_other (entries : Entries) : AllOther (foreignProblems entries) := by
  have outline : AllOther (pipelineProblems (Entries.fieldOrNull entries "pipeline")) := by
    unfold pipelineProblems
    split
    · simp [AllOther]
    · refine List.forall_mem_map.mpr fun key _ => ?_
      simpa only [wrongPipelineKey, String.append_assoc] using other_head 'I' _ _ (by decide)
    · exact List.forall_mem_singleton.mpr (other_whole 'p' _ (by decide))
  unfold foreignProblems
  refine all_other_append _ _ (all_other_append _ _ (all_other_append _ _ (all_other_append _ _
    (all_other_append _ _ ?_ ?_) ?_) ?_) ?_) outline
  · refine List.forall_mem_map.mpr fun key _ => ?_
    simpa only [inventedKey, String.append_assoc] using other_head 'I' _ _ (by decide)
  · refine List.forall_mem_map.mpr fun key _ => ?_
    simpa only [manifestKey, String.append_assoc] using other_head 'I' _ _ (by decide)
  · intro problem member
    obtain ⟨type, -, rfl⟩ := Option.map_eq_some_iff.mp (Option.mem_toList.mp member)
    simpa only [typedDocument, String.append_assoc] using other_head 'I' _ _ (by decide)
  · split
    · exact List.forall_mem_singleton.mpr (other_whole 'T' _ (by decide))
    · simp [AllOther]
  · split
    · exact List.forall_mem_singleton.mpr (other_whole 'T' _ (by decide))
    · simp [AllOther]

theorem mistakes_other : ∀ mistake ∈ Expression.AntiPattern.all, IsOther mistake.message := by
  unfold Expression.AntiPattern.all
  repeat refine List.forall_mem_cons.mpr ⟨other_whole _ _ (by decide), ?_⟩
  exact fun _ listed => absurd listed List.not_mem_nil

theorem misnamed_other (name : String) (kind : CallKind) (resolution : Option Resolution) (location : String) :
    IsOther (Expression.misnamedFinding name kind resolution location).message := by
  have unknown : IsOther ("Unknown Bloblang " ++ kind.name ++ " \"" ++ kind.render name ++ "\"") := by
    simpa only [String.append_assoc] using other_start "Unknown Bloblang " _ (by decide)
  have other_kind (rest : String) : IsOther ("\"" ++ name ++ rest) := by
    simpa only [String.append_assoc] using other_head '\"' [] _ (by decide)
  unfold Expression.misnamedFinding Expression.misnamedText
  cases resolution with
  | none => exact unknown
  | some resolution =>
      simp only
      split
      · cases kind <;> exact other_kind _
      · split <;> exact unknown

theorem lint_other (expression location : String) :
    ∀ finding ∈ Expression.lint expression location, IsOther finding.message := by
  unfold Expression.lint
  simp only
  refine List.forall_mem_append.mpr ⟨List.forall_mem_map.mpr fun mistake fired => ?_, fun finding member => ?_⟩
  · exact mistakes_other mistake (List.mem_filter.mp fired).1
  · obtain ⟨call, -, found⟩ := List.mem_filterMap.mp member
    unfold Expression.callFinding? at found
    split at found
    · cases found
      exact misnamed_other _ _ _ location
    · cases found

theorem text_findings_other (path text : String) : ∀ finding ∈ textFindings path text, IsOther finding.message := by
  unfold textFindings Expression.lintInterpolations
  split
  · split
    · simp
    · exact lint_other _ path
  · simp

theorem query_findings_other (path : String) (entries : Entries) :
    ∀ finding ∈ queryFindings path entries, IsOther finding.message := by
  unfold queryFindings
  split
  · exact lint_other _ _
  · simp

mutual

theorem findings_other (path : String) : (value : Value) → ∀ finding ∈ findings path value, IsOther finding.message
  | .scalar s => by
      cases s with
      | str text => exact text_findings_other path text
      | _ => exact fun _ member => absurd member (by simp [findings])
  | .list items => item_findings_other path 0 items
  | .map entries => entry_findings_other false path entries

theorem item_findings_other (path : String) (index : Nat) :
    (items : List Value) → ∀ finding ∈ itemFindings path index items, IsOther finding.message
  | [] => by simp [itemFindings]
  | item :: items => by
      have first := findings_other (indexed path index) item
      have others := item_findings_other path (index + 1) items
      unfold itemFindings
      exact List.forall_mem_append.mpr ⟨first, others⟩

theorem entry_findings_other (belowParent : Bool) (path : String) :
    (entries : Entries) → ∀ finding ∈ entryFindings belowParent path entries, IsOther finding.message
  | [] => by simp [entryFindings]
  | (key, .scalar s) :: entries => by
      have others := entry_findings_other belowParent path entries
      unfold entryFindings
      refine List.forall_mem_append.mpr ⟨?_, others⟩
      cases s with
      | str text =>
          simp only
          split
          · simp
          · split
            · exact lint_other text _
            · exact text_findings_other _ text
      | _ => simp
  | (key, .list items) :: entries => by
      have inside := item_findings_other (joinPath path key.display) 0 items
      have others := entry_findings_other belowParent path entries
      unfold entryFindings
      refine List.forall_mem_append.mpr ⟨?_, others⟩
      split
      · simp
      · exact inside
  | (key, .map inner) :: entries => by
      have inside (belowParent : Bool) := entry_findings_other belowParent (joinPath path key.display) inner
      have others := entry_findings_other belowParent path entries
      unfold entryFindings
      refine List.forall_mem_append.mpr ⟨?_, others⟩
      split
      · simp
      · simp only
        split
        · exact List.forall_mem_append.mpr ⟨query_findings_other _ inner, inside true⟩
        · exact inside false

end

theorem expression_problems_other (entries : Entries) : AllOther (expressionProblems entries) :=
  List.forall_mem_map.mpr (findings_other "" (.map entries))

def Slot.unknown? (slot : Slot) : Option (String × Category) :=
  match slot.value with
  | .map entries =>
      match Catalog.componentType entries with
      | .ok (some type) => if Catalog.isKnown type slot.category then none else some (type, slot.category)
      | _ => none
  | _ => none

def Reports (slots : List Slot) (names : List (String × Category)) : Prop :=
  ∃ problems, slotsProblems slots = .ok problems ∧ (problems.filterMap reported?).Perm names

theorem reports_nil : Reports [] [] :=
  ⟨[], rfl, .nil⟩

theorem reports_perm {slots : List Slot} {names others : List (String × Category)} (reports : Reports slots names)
    (same : names.Perm others) : Reports slots others := by
  obtain ⟨problems, answered, found⟩ := reports
  exact ⟨problems, answered, found.trans same⟩

theorem slots_problems_both (first second : List Slot) (problems : List Problem) :
    slotsProblems (first ++ second) = .ok problems ↔
      ∃ one other, slotsProblems first = .ok one ∧ slotsProblems second = .ok other ∧ problems = one ++ other := by
  induction first generalizing problems with
  | nil => simp [slotsProblems]
  | cons slot rest ih =>
      rw [List.cons_append, slotsProblems, slotsProblems]
      constructor
      · intro found
        obtain ⟨here, answered, found⟩ := bound_ok _ _ problems found
        obtain ⟨others, onward, found⟩ := bound_ok _ _ problems found
        cases found
        obtain ⟨one, other, first_answered, also, rfl⟩ := (ih others).mp onward
        refine ⟨here ++ one, other, ?_, also, (List.append_assoc here one other).symm⟩
        rw [answered, first_answered]
        rfl
      · rintro ⟨one, other, found, also, rfl⟩
        obtain ⟨here, answered, found⟩ := bound_ok _ _ one found
        obtain ⟨others, onward, found⟩ := bound_ok _ _ one found
        cases found
        rw [answered, (ih (others ++ other)).mpr ⟨others, other, onward, also, rfl⟩]
        exact congrArg Except.ok (List.append_assoc here others other).symm

theorem reports_append (first second : List Slot) (names others : List (String × Category)) (one : Reports first names)
    (other : Reports second others) : Reports (first ++ second) (names ++ others) := by
  obtain ⟨problems, answered, same⟩ := one
  obtain ⟨more, also, rest⟩ := other
  refine ⟨problems ++ more, (slots_problems_both first second _).mpr ⟨problems, more, answered, also, rfl⟩, ?_⟩
  rw [List.filterMap_append]
  exact same.append rest

theorem reports_one (slot : Slot) (names : List (String × Category)) :
    Reports [slot] names ↔ ∃ problems, slotProblems slot = .ok problems ∧ (problems.filterMap reported?).Perm names := by
  unfold Reports
  rw [slotsProblems]
  cases slotProblems slot <;> simp [slotsProblems, bind, Except.bind, pure, Except.pure]

theorem reports_step (slot : Slot) (names : List (String × Category)) (readable : slot.IsReadable)
    (inside : Reports slot.inner names) : Reports [slot] (slot.unknown?.toList ++ names) := by
  rw [reports_one]
  obtain ⟨path, category, value⟩ := slot
  obtain ⟨problems, answered, same⟩ := inside
  -- the error for a component that is no mapping, or has no type, is the only one
  have alone (problem : Problem) (outer : slotProblems ⟨path, category, value⟩ = .ok [problem]) (other : IsOther problem.message)
      (inner : Slot.inner ⟨path, category, value⟩ = []) (typeless : Slot.unknown? ⟨path, category, value⟩ = none) :
      ∃ problems, slotProblems ⟨path, category, value⟩ = .ok problems ∧
        (problems.filterMap reported?).Perm ((Slot.unknown? ⟨path, category, value⟩).toList ++ names) := by
    rw [inner] at answered
    cases answered
    refine ⟨[problem], outer, ?_⟩
    rw [typeless, all_other_unreported [problem] (List.forall_mem_singleton.mpr other)]
    exact same
  have no_mapping : IsOther (notAMapping path).message := other_end _ (by simp [notAMapping, String.toList_append])
  have no_type : IsOther (noType path).message := other_head 'N' _ _ (by decide)
  cases value with
  | scalar s => exact alone _ (by rw [slotProblems]) no_mapping rfl rfl
  | list items => exact alone _ (by rw [slotProblems]) no_mapping rfl rfl
  | map entries =>
      obtain ⟨type, typed⟩ := (Catalog.component_type_answers entries).mpr (readable entries rfl)
      cases type with
      | none =>
          refine alone (noType path) ?_ no_type (by simp [Slot.inner, typed]) (by simp [Slot.unknown?, typed])
          rw [slotProblems]
          simp only [typed]
      | some type =>
          simp only [Slot.inner, typed] at answered
          obtain ⟨one, other, beside, within, rfl⟩ := (slots_problems_both _ _ problems).mp answered
          rw [List.filterMap_append] at same
          rw [slotProblems]
          simp only [typed, allProblems_eq, beside, Slot.unknown?]
          by_cases known : Catalog.isKnown type category = true
          · rw [if_pos known] at within
            simp only [known, if_true, within]
            refine ⟨_, rfl, ?_⟩
            have fields := all_other_unreported _
              (field_problems_other (keyed path type) category type (Entries.fieldOrNull entries type))
            rw [List.filterMap_append, List.filterMap_append, fields, List.append_nil]
            exact same
          · rw [if_neg known] at within
            cases within
            simp only [known]
            refine ⟨_, rfl, ?_⟩
            have here : reported? (unknownComponent path category type) = some (type, category) :=
              reported_unknown _ type category _
            rw [List.filterMap_append, List.filterMap_cons_some here, List.filterMap_nil]
            refine List.perm_append_comm.trans ?_
            simpa using same

end PipelineLint.Validation
