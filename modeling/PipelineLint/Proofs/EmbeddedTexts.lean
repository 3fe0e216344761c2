import PipelineLint.Proofs.Answers
import PipelineLint.Proofs.KeptData

set_option autoImplicit false

namespace PipelineLint.Validation

open Document

-- A text of a document: where it stands, whether it is an expression, and whether it stands inside a list or a mapping
-- that is the query of a mapping.
structure TextPlace where
  path : String
  isExpression : Bool
  inQuery : Bool
  text : String
deriving DecidableEq

def TextPlace.findings (place : TextPlace) : List Finding :=
  if place.isExpression then Expression.lint place.text place.path else textFindings place.path place.text

def TextPlace.problems (place : TextPlace) : List Problem :=
  place.findings.map findingProblem

-- What a value is to the mapping or the list that it stands in: whether a text in its place is an expression, and whether a
-- mapping in its place has a query or it is that query.
structure Standing where
  isExpression : Bool := false
  hasQuery : Bool := false
  isQuery : Bool := false

def standing (hasQuery : Bool) (key : Scalar) : Standing :=
  let isQuery := hasQuery && isOneOf [queryKey] key
  ⟨isOneOf expressionKeys key || isQuery, isOneOf queryParents key, isQuery⟩

mutual

def valueTexts (standing : Standing) (inQuery : Bool) (path : String) : Value → List TextPlace
  | .scalar s =>
      match s with
      | .str text => [⟨path, standing.isExpression, inQuery, text⟩]
      | _ => []
  | .list items => itemTexts (inQuery || standing.isQuery) path 0 items
  | .map entries => entryTexts standing.hasQuery (inQuery || standing.isQuery) path entries

def itemTexts (inQuery : Bool) (path : String) (index : Nat) : List Value → List TextPlace
  | [] => []
  | item :: items => valueTexts {} inQuery (indexed path index) item ++ itemTexts inQuery path (index + 1) items

def entryTexts (hasQuery inQuery : Bool) (path : String) : Entries → List TextPlace
  | [] => []
  | (key, value) :: entries =>
      valueTexts (standing hasQuery key) inQuery (joinPath path key.display) value ++
        entryTexts hasQuery inQuery path entries

end

def documentTexts (entries : Entries) : List TextPlace :=
  valueTexts {} false "" (.map entries)

mutual

theorem value_texts_in_query (standing : Standing) (path : String) :
    (value : Value) → ∀ place ∈ valueTexts standing true path value, place.inQuery = true
  | .scalar s => by
      cases s <;> simp [valueTexts]
  | .list items => item_texts_in_query path 0 items
  | .map entries => entry_texts_in_query standing.hasQuery path entries

theorem item_texts_in_query (path : String) (index : Nat) :
    (items : List Value) → ∀ place ∈ itemTexts true path index items, place.inQuery = true
  | [] => nofun
  | item :: items => by
      have here := value_texts_in_query {} (indexed path index) item
      have others := item_texts_in_query path (index + 1) items
      intro place member
      rcases List.mem_append.mp member with first | later
      · exact here place first
      · exact others place later

theorem entry_texts_in_query (hasQuery : Bool) (path : String) :
    (entries : Entries) → ∀ place ∈ entryTexts hasQuery true path entries, place.inQuery = true
  | [] => nofun
  | (key, value) :: entries => by
      have here := value_texts_in_query (standing hasQuery key) (joinPath path key.display) value
      have others := entry_texts_in_query hasQuery path entries
      intro place member
      rcases List.mem_append.mp member with first | later
      · exact here place first
      · exact others place later

end

def shownFindings (places : List TextPlace) : List Finding :=
  (places.filter fun place => !place.inQuery).flatMap TextPlace.findings

theorem shown_append (first second : List TextPlace) :
    shownFindings (first ++ second) = shownFindings first ++ shownFindings second := by
  rw [shownFindings, List.filter_append, List.flatMap_append]
  rfl

theorem shown_in_query (places : List TextPlace) (all : ∀ place ∈ places, place.inQuery = true) :
    shownFindings places = [] := by
  have none : places.filter (fun place => !place.inQuery) = [] :=
    List.filter_eq_nil_iff.mpr fun place member => by simp [all place member]
  rw [shownFindings, none]
  rfl

def heldFindings (key : Scalar) (path : String) : Value → List Finding
  | .scalar s =>
      match s with
      | .str text => if isOneOf expressionKeys key then Expression.lint text path else textFindings path text
      | _ => []
  | .list items => itemFindings path 0 items
  | .map entries =>
      if isOneOf queryParents key then queryFindings path entries ++ entryFindings true path entries
      else entryFindings false path entries

theorem entry_findings_cons (hasQuery : Bool) (path : String) (key : Scalar) (value : Value) (entries : Entries) :
    entryFindings hasQuery path ((key, value) :: entries) =
      (if hasQuery && isOneOf [queryKey] key then [] else heldFindings key (joinPath path key.display) value) ++
        entryFindings hasQuery path entries := by
  rw [entryFindings]
  cases value <;> rfl

theorem one_name (name : String) (key : Scalar) : isOneOf [name] key = key.sameKey (.str name) := by
  cases key with
  | str s =>
      rw [Bool.eq_iff_iff]
      simp [isOneOf]
  | _ => rfl

theorem query_findings_here (path : String) (key : Scalar) (value : Value) (entries : Entries)
    (here : isOneOf [queryKey] key = true) : queryFindings path ((key, value) :: entries) =
      match value with
      | .str query => Expression.lint query (keyed path queryKey)
      | _ => [] := by
  rw [one_name] at here
  simp only [queryFindings, Entries.field?, Entries.get?, List.find?_cons, here, Option.map_some]
  cases value with
  | scalar s => cases s <;> rfl
  | _ => rfl

theorem query_findings_later (path : String) (key : Scalar) (value : Value) (entries : Entries)
    (other : isOneOf [queryKey] key = false) : queryFindings path ((key, value) :: entries) = queryFindings path entries := by
  rw [one_name] at other
  simp only [queryFindings, Entries.field?, Entries.get?, List.find?_cons, other]

theorem query_findings_none (path : String) (entries : Entries)
    (none : ∀ key ∈ Entries.keys entries, isOneOf [queryKey] key = false) : queryFindings path entries = [] := by
  induction entries with
  | nil => rfl
  | cons entry entries ih =>
      obtain ⟨here, others⟩ := List.forall_mem_cons.mp none
      rw [query_findings_later path entry.1 entry.2 entries here, ih others]

theorem name_of_one (name : String) (key : Scalar) (one : isOneOf [name] key = true) : key = .str name := by
  cases key with
  | str s => simpa [isOneOf] using one
  | _ => cases one

theorem parent_path (path : String) (key : Scalar) (parent : isOneOf queryParents key = true) :
    joinPath path key.display ≠ "" := by
  cases key with
  | str s =>
      have ink : s ≠ "" := by
        rintro rfl
        exact absurd parent (by decide)
      show joinPath path s ≠ ""
      unfold joinPath keyed
      split <;> simp [ink]
  | _ => cases parent

def mappingFindings (hasQuery : Bool) (path : String) (entries : Entries) : List Finding :=
  (if hasQuery then queryFindings path entries else []) ++ entryFindings hasQuery path entries

theorem held_findings_map (key : Scalar) (path : String) (entries : Entries) :
    heldFindings key path (.map entries) = mappingFindings (isOneOf queryParents key) path entries := by
  unfold heldFindings mappingFindings
  cases isOneOf queryParents key <;> rfl

theorem mapping_findings_cons (hasQuery : Bool) (path : String) (key : Scalar) (value : Value) (entries : Entries)
    (other : (hasQuery && isOneOf [queryKey] key) = false) :
    (mappingFindings hasQuery path ((key, value) :: entries)).Perm
      (heldFindings key (joinPath path key.display) value ++ mappingFindings hasQuery path entries) := by
  unfold mappingFindings
  rw [entry_findings_cons, other]
  cases hasQuery with
  | false => exact .refl _
  | true =>
      simp only [if_true, Bool.false_eq_true, if_false, query_findings_later path key value entries other]
      rw [← List.append_assoc, ← List.append_assoc]
      exact List.perm_append_comm.append_right _

theorem standing_other (hasQuery : Bool) (key : Scalar) (other : (hasQuery && isOneOf [queryKey] key) = false) :
    standing hasQuery key = standing false key := by
  simp [standing, other]

theorem query_entry_shown (key : Scalar) (value : Value) (entries : Entries) (path : String)
    (one : isOneOf [queryKey] key = true) (placed : path ≠ "")
    (alone : ∀ other ∈ Entries.keys entries, key.sameKey other = false)
    (others : (mappingFindings true path entries).Perm (shownFindings (entryTexts true false path entries))) :
    (mappingFindings true path ((key, value) :: entries)).Perm
      (shownFindings (valueTexts (standing true key) false (joinPath path key.display) value) ++
        shownFindings (entryTexts true false path entries)) := by
  have named := name_of_one queryKey key one
  subst named
  have none : ∀ other ∈ Entries.keys entries, isOneOf [queryKey] other = false := by
    intro other member
    cases same : isOneOf [queryKey] other with
    | false => rfl
    | true =>
        have found := alone other member
        rw [name_of_one queryKey other same, Scalar.sameKey_refl] at found
        cases found
  have left : mappingFindings true path entries = entryFindings true path entries := by
    simp [mappingFindings, query_findings_none path entries none]
  rw [left] at others
  unfold mappingFindings
  rw [if_pos rfl, query_findings_here path _ value entries one, entry_findings_cons, if_pos (by simp [one]), List.nil_append]
  have joined : joinPath path (Scalar.str queryKey).display = keyed path queryKey := if_neg placed
  rw [joined]
  apply List.Perm.append _ others
  cases value with
  | scalar s =>
      cases s with
      | str text => simp [valueTexts, shownFindings, TextPlace.findings, standing, isOneOf]
      | _ => exact .nil
  | list items =>
      have nothing := shown_in_query _ (item_texts_in_query (keyed path queryKey) 0 items)
      exact nothing ▸ .refl []
  | map inside =>
      have nothing := shown_in_query _ (entry_texts_in_query false (keyed path queryKey) inside)
      exact nothing ▸ .refl []

mutual

theorem findings_shown : (value : Value) → Distinct value → ∀ path,
    (findings path value).Perm (shownFindings (valueTexts {} false path value))
  | .scalar s => by
      intro _ path
      cases s with
      | str text => simp [findings, valueTexts, shownFindings, TextPlace.findings]
      | _ => exact .nil
  | .list items => by
      intro distinct path
      exact item_findings_shown items distinct path 0
  | .map entries => by
      intro distinct path
      exact mapping_findings_shown entries distinct.1 distinct.2 false path (by simp)

theorem item_findings_shown : (items : List Value) → DistinctItems items → ∀ path index,
    (itemFindings path index items).Perm (shownFindings (itemTexts false path index items))
  | [] => fun _ _ _ => .nil
  | item :: items => by
      intro distinct path index
      have here := findings_shown item distinct.1 (indexed path index)
      have others := item_findings_shown items distinct.2 path (index + 1)
      rw [itemFindings, itemTexts, shown_append]
      exact here.append others

theorem mapping_findings_shown : (entries : Entries) → KeysApart entries → DistinctEntries entries → ∀ hasQuery path,
    (hasQuery = true → path ≠ "") →
      (mappingFindings hasQuery path entries).Perm (shownFindings (entryTexts hasQuery false path entries))
  | [] => by
      intro _ _ hasQuery path _
      cases hasQuery <;> exact .nil
  | (key, value) :: entries => by
      intro apart distinct hasQuery path placed
      have here := held_findings_shown value distinct.1 key
      obtain ⟨alone, apart⟩ := List.pairwise_cons.mp apart
      have others := mapping_findings_shown entries apart distinct.2 hasQuery path placed
      rw [entryTexts, shown_append]
      by_cases query : (hasQuery && isOneOf [queryKey] key) = true
      · obtain ⟨rfl, one⟩ := Bool.and_eq_true_iff.mp query
        exact query_entry_shown key value entries path one (placed rfl) alone others
      · have other := Bool.eq_false_iff.mpr query
        rw [standing_other hasQuery key other]
        exact (mapping_findings_cons hasQuery path key value entries other).trans
          ((here _ (parent_path path key)).append others)

theorem held_findings_shown : (value : Value) → Distinct value → ∀ key path, (isOneOf queryParents key = true → path ≠ "") →
    (heldFindings key path value).Perm (shownFindings (valueTexts (standing false key) false path value))
  | .scalar s => by
      intro _ key path _
      cases s with
      | str text => simp [heldFindings, valueTexts, shownFindings, TextPlace.findings, standing]
      | _ => exact .nil
  | .list items => by
      intro distinct key path _
      exact item_findings_shown items distinct path 0
  | .map entries => by
      intro distinct key path placed
      rw [held_findings_map]
      exact mapping_findings_shown entries distinct.1 distinct.2 (isOneOf queryParents key) path placed

end

theorem lint_location (text path : String) : ∀ finding ∈ Expression.lint text path, finding.location = path := by
  intro finding member
  unfold Expression.lint at member
  rcases List.mem_append.mp member with mistake | misnamed
  · obtain ⟨pattern, -, rfl⟩ := List.mem_map.mp mistake
    rfl
  · obtain ⟨call, -, found⟩ := List.mem_filterMap.mp misnamed
    unfold Expression.callFinding? at found
    split at found
    · cases found
      rfl
    · cases found

theorem place_path (place : TextPlace) : ∀ problem ∈ place.problems, problem.path = place.path := by
  intro problem member
  obtain ⟨finding, found, rfl⟩ := List.mem_map.mp member
  unfold TextPlace.findings textFindings Expression.lintInterpolations at found
  show finding.location = place.path
  split at found
  · exact lint_location place.text place.path finding found
  · split at found
    · split at found
      · cases found
      · exact lint_location _ place.path finding found
    · cases found

theorem expression_problems_shown (entries : Entries) (distinct : Distinct (.map entries)) :
    (expressionProblems entries).Perm
      (((documentTexts entries).filter fun place => !place.inQuery).flatMap TextPlace.problems) := by
  have shown := (findings_shown (.map entries) distinct "").map findingProblem
  unfold shownFindings at shown
  rw [List.map_flatMap] at shown
  exact shown

theorem document_problems_end (entries : Entries) (errors : List Problem) (found : documentProblems entries = .ok errors) :
    expressionProblems entries <:+ errors := by
  unfold documentProblems at found
  obtain ⟨input, -, found⟩ := bound_ok _ _ errors found
  obtain ⟨output, -, found⟩ := bound_ok _ _ errors found
  obtain ⟨processors, -, found⟩ := bound_ok _ _ errors found
  obtain ⟨resources, -, found⟩ := bound_ok _ _ errors found
  rw [← Except.ok.inj found]
  exact List.suffix_append _ _

end PipelineLint.Validation

namespace PipelineLint

open Validation Document

-- The check answers where it can look for the types of all components, and its errors then end with those of the texts of
-- the document, each text linted once as what it is and at its own path, but for the texts inside of a query.
theorem embedded_texts_linted (options : Options) (known : options.floor ∈ [Severity.error, .warning, .info])
    (entries : Entries) (distinct : Distinct (.map entries)) :
    ((∃ diagnosis, diagnose options (.map entries) = .ok diagnosis) ↔ ComponentsAreReadable options entries) ∧
      (∀ diagnosis, diagnose options (.map entries) = .ok diagnosis → ∃ linted, linted <:+ diagnosis.errors ∧
        linted.Perm (((documentTexts entries).filter fun place => !place.inQuery).flatMap TextPlace.problems)) ∧
      ∀ place ∈ documentTexts entries, ∀ problem ∈ place.problems, problem.path = place.path := by
  refine ⟨?_, ?_, fun place _ => place_path place⟩
  · have ranked : options.floor.rank?.isSome = true := by
      simp only [List.mem_cons, List.not_mem_nil, or_false] at known
      rcases known with same | same | same <;> rw [same] <;> rfl
    simpa using diagnose_answers options (.map entries) ranked
  · intro diagnosis answered
    refine ⟨expressionProblems entries, ?_, expression_problems_shown entries distinct⟩
    unfold diagnose at answered
    simp only at answered
    split at answered
    · cases answered
    · rename_i errors found
      split at answered
      · cases answered
      · cases answered
        exact document_problems_end entries errors found

theorem interpolated_problems (path text : String) (inQuery : Bool) (span : Expression.Interpolation)
    (found : Expression.interpolations text.toList = [span]) (opened : Text.occursIn Expression.opener text.toList = true) :
    TextPlace.problems ⟨path, false, inQuery, text⟩ = (Expression.lint (String.ofList span.body) path).map findingProblem := by
  simp [TextPlace.problems, TextPlace.findings, textFindings, opened, Expression.lintInterpolations, found, List.intercalate]

def queriedLogger : Entries :=
  [(.str "logger", .map [(.str "mapping", .map [(.str "query", .str "this.parseJson()"),
    (.str "tags", .list [.str "${! this.toUpper() }"])])])]

theorem embedded_texts_linted_logger : ({} : Options).floor ∈ [Severity.error, .warning, .info] ∧
    Distinct (.map queriedLogger) ∧ ∃ diagnosis linted, diagnose {} (.map queriedLogger) = .ok diagnosis ∧
      linted <:+ diagnosis.errors ∧ linted.Perm [
        ⟨"logger.mapping.query", "Unknown Bloblang method \".parseJson()\"", some "Use .parse_json() instead"⟩,
        ⟨"logger.mapping.tags[0]", "Unknown Bloblang method \".toUpper()\"", some "Use .uppercase() instead"⟩] := by
  have known : ({} : Options).floor ∈ [Severity.error, .warning, .info] := by decide
  have distinct : Distinct (.map queriedLogger) := by
    simp [queriedLogger, Distinct, DistinctEntries, DistinctItems, KeysApart, Entries.keys]
  have readable : ComponentsAreReadable {} queriedLogger :=
    ⟨fun slot member => absurd member (by simp [show documentSlots queriedLogger = [] from rfl]),
      fun _ slot member => absurd member (by simp [show sectionSlots queriedLogger .buffer = [] from rfl])⟩
  obtain ⟨answers, ends, -⟩ := embedded_texts_linted {} known queriedLogger distinct
  obtain ⟨diagnosis, answered⟩ := answers.mpr readable
  obtain ⟨linted, suffix, same⟩ := ends diagnosis answered
  refine ⟨known, distinct, diagnosis, linted, answered, suffix, same.trans (.of_eq ?_)⟩
  have texts : documentTexts queriedLogger = [⟨"logger.mapping.query", true, false, "this.parseJson()"⟩,
      ⟨"logger.mapping.tags[0]", false, false, "${! this.toUpper() }"⟩] := by decide
  have bodies : Expression.interpolations "${! this.toUpper() }".toList = [⟨3, " this.toUpper() ".toList⟩] := by cbv
  have expression : TextPlace.problems ⟨"logger.mapping.query", true, false, "this.parseJson()"⟩ =
      [⟨"logger.mapping.query", "Unknown Bloblang method \".parseJson()\"", some "Use .parse_json() instead"⟩] := by
    decide +kernel
  have interpolation : TextPlace.problems ⟨"logger.mapping.tags[0]", false, false, "${! this.toUpper() }"⟩ =
      [⟨"logger.mapping.tags[0]", "Unknown Bloblang method \".toUpper()\"", some "Use .uppercase() instead"⟩] := by
    rw [interpolated_problems _ _ false _ bodies (by decide)]
    decide +kernel
  rw [texts]
  simp [expression, interpolation]

theorem lone_component (path : String) (category : Category) (name : String)
    (typed : Catalog.componentType [(.str name, .map [])] = .ok (some name)) (known : Catalog.isKnown name category = true)
    (beside : slotsBeside path category [(.str name, .map [])] = [])
    (within : slotsWithin (keyed path name) category name (.map []) = [])
    (fields : fieldProblems (keyed path name) category name (.map []) = []) :
    slotProblems ⟨path, category, .map [(.str name, .map [])]⟩ = .ok [] := by
  have held : Entries.fieldOrNull [(.str name, .map [])] name = .map [] := by
    simp [Entries.fieldOrNull, Entries.field?, Entries.get?]
  rw [slotProblems]
  simp only [typed, allProblems_eq, beside, known, if_true, held, within, fields, slotsProblems]
  rfl

theorem stdin_section (document : Entries)
    (given : Entries.field? document "input" = some (.map [(.str "stdin", .map [])])) : sectionProblems document .input = .ok [] := by
  simp only [sectionProblems, Category.name, given]
  exact lone_component "input" .input "stdin" rfl rfl rfl rfl rfl

theorem stdout_section (document : Entries)
    (given : Entries.field? document "output" = some (.map [(.str "stdout", .map [])])) :
    sectionProblems document .output = .ok [] := by
  simp only [sectionProblems, Category.name, given]
  exact lone_component "output" .output "stdout" rfl rfl rfl rfl rfl

-- A list as the query of a mapping: the same text below any other key would be reported.
def listedQuery : Entries := [
  (.str "input", .map [(.str "stdin", .map [])]),
  (.str "logger", .map [(.str "mapping", .map [(.str "query", .list [.str "${! this.parseJson() }"])])]),
  (.str "output", .map [(.str "stdout", .map [])])]

theorem listed_query_unlinted :
    documentTexts listedQuery = [⟨"logger.mapping.query[0]", false, true, "${! this.parseJson() }"⟩] ∧
      TextPlace.problems ⟨"logger.mapping.query[0]", false, true, "${! this.parseJson() }"⟩ =
        [⟨"logger.mapping.query[0]", "Unknown Bloblang method \".parseJson()\"", some "Use .parse_json() instead"⟩] ∧
      diagnose {} (.map listedQuery) = .ok {} := by
  refine ⟨by decide, ?_, ?_⟩
  · have bodies : Expression.interpolations "${! this.parseJson() }".toList = [⟨3, " this.parseJson() ".toList⟩] := by cbv
    rw [interpolated_problems _ _ true _ bodies (by decide)]
    decide +kernel
  · have input : sectionProblems listedQuery .input = .ok [] :=
      lone_component "input" .input "stdin" rfl (by decide +kernel) (by decide +kernel) (by decide +kernel) (by decide +kernel)
    have output : sectionProblems listedQuery .output = .ok [] :=
      lone_component "output" .output "stdout" rfl (by decide +kernel) (by decide +kernel) (by decide +kernel)
        (by decide +kernel)
    have resources : allResourceProblems listedQuery = .ok [] := rfl
    have others : foreignProblems listedQuery = [] ∧ expressionProblems listedQuery = [] := by decide +kernel
    have errors : documentProblems listedQuery = .ok [] := by
      unfold documentProblems
      rw [input, output, resources]
      simp only [others]
      rfl
    have warnings : advice {} listedQuery = .ok [] := rfl
    simp only [diagnose, errors, warnings]
    rfl

end PipelineLint
