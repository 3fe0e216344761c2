import PipelineLint.Proofs.UnknownTypes

set_option autoImplicit false

namespace PipelineLint.Validation

-- A turn on the way into a value: to an item of a list, or to what a name stands for in a mapping, at its index there.
inductive Turn where
  | item (index : Nat)
  | entry (index : Nat) (name : String)
deriving DecidableEq

namespace Turn

def index : Turn → Nat
  | .item index => index
  | .entry index _ => index

def below (path : String) : Turn → String
  | .item index => indexed path index
  | .entry _ name => keyed path name

def take? (value : Value) (turn : Turn) : Option Value :=
  match value, turn with
  | .list items, .item index => items[index]?
  | .map entries, .entry index name =>
      match entries[index]? with
      | some (.str key, held) => if key = name then some held else none
      | _ => none
  | _, _ => none

end Turn

abbrev Way := List Turn

namespace Way

def below (path : String) (way : Way) : String :=
  way.foldl Turn.below path

def take? (value : Value) : Way → Option Value
  | [] => some value
  | turn :: way => (turn.take? value).bind fun inner => take? inner way

-- What is written first: a value before the values in it, and one at a smaller index before one at a greater.
def IsBefore (first second : Way) : Prop :=
  first.map Turn.index < second.map Turn.index

theorem before_irreflexive (way : Way) : ¬ IsBefore way way :=
  List.lt_irrefl _

theorem before_behind (turn : Turn) (first second : Way) (before : IsBefore first second) :
    IsBefore (turn :: first) (turn :: second) :=
  List.cons_lt_cons_iff.mpr (.inr ⟨rfl, before⟩)

theorem before_apart (turn other : Turn) (first second : Way) (less : turn.index < other.index) :
    IsBefore (turn :: first) (other :: second) :=
  List.cons_lt_cons_iff.mpr (.inl less)

end Way

-- The value at the end of a way is not what the specification of its place wants, and this is its error.
inductive Offends : FieldSpec → String → String → Value → Way → Problem → Prop where
  | here (spec : FieldSpec) (path name : String) (value : Value) (problem : Problem) (filled : value ≠ .null)
      (own : ownProblem? value spec path name = some problem) : Offends spec path name value [] problem
  | item (spec itemSpec : FieldSpec) (path name : String) (items : List Value) (index : Nat) (item : Value) (way : Way)
      (problem : Problem) (array : spec.kind = .array) (known : spec.items = some itemSpec) (found : items[index]? = some item)
      (inside : Offends itemSpec (indexed path index) (indexed name index) item way problem) :
      Offends spec path name (.list items) (.item index :: way) problem
  | property (spec field : FieldSpec) (path name : String) (entries : Entries) (index : Nat) (key : String) (held : Value)
      (way : Way) (problem : Problem) (object : spec.kind = .object) (known : spec.properties.lookup key = some field)
      (found : entries[index]? = some (.str key, held)) (inside : Offends field (keyed path key) key held way problem) :
      Offends spec path name (.map entries) (.entry index key :: way) problem

theorem kind_problem_path (value : Value) (spec : FieldSpec) (path name : String) (problem : Problem)
    (found : kindProblem? value spec path name = some problem) : problem.path = path := by
  rcases kind_problem_cases value spec path name with nothing | mistyped | ⟨text, untimed⟩ | untimed
  · rw [nothing] at found
    cases found
  · rw [mistyped] at found
    cases found
    rfl
  · rw [untimed] at found
    cases found
    rfl
  · rw [untimed] at found
    cases found
    rfl

theorem choice_problem_path (value : Value) (spec : FieldSpec) (path name : String) (problem : Problem)
    (found : choiceProblem? value spec path name = some problem) : problem.path = path := by
  unfold choiceProblem? at found
  simp only at found
  split at found
  · cases found
  · cases found
    rfl

theorem own_problem_path (value : Value) (spec : FieldSpec) (path name : String) (problem : Problem)
    (found : ownProblem? value spec path name = some problem) : problem.path = path := by
  unfold ownProblem? at found
  split at found
  · rename_i kind
    exact kind_problem_path value spec path name problem (kind.trans found)
  · exact choice_problem_path value spec path name problem found

theorem list_no_problem (spec : FieldSpec) (path name : String) (items : List Value) (array : spec.kind = .array) :
    ownProblem? (.list items) spec path name = none := by
  simp [ownProblem?, kindProblem?, array]

theorem map_no_problem (spec : FieldSpec) (path name : String) (entries : Entries) (object : spec.kind = .object) :
    ownProblem? (.map entries) spec path name = none := by
  simp [ownProblem?, kindProblem?, object]

theorem offends_path (spec : FieldSpec) (path name : String) (value : Value) (way : Way) (problem : Problem)
    (offends : Offends spec path name value way problem) : problem.path = way.below path := by
  induction offends with
  | here spec path name value problem _ own => exact own_problem_path value spec path name problem own
  | item _ _ _ _ _ _ _ _ _ _ _ _ _ ih => exact ih
  | property _ _ _ _ _ _ _ _ _ _ _ _ _ _ ih => exact ih

theorem offends_filled (spec : FieldSpec) (path name : String) (value : Value) (way : Way) (problem : Problem)
    (offends : Offends spec path name value way problem) : ∃ held, way.take? value = some held ∧ held ≠ .null := by
  induction offends with
  | here _ _ _ value _ filled => exact ⟨value, rfl, filled⟩
  | item _ _ _ _ items index item way _ _ _ found _ ih =>
      have turn : Turn.take? (.list items) (.item index) = some item := found
      simpa only [Way.take?, turn, Option.bind_some] using ih
  | property _ _ _ _ entries index key held way _ _ _ found _ ih =>
      have turn : Turn.take? (.map entries) (.entry index key) = some held := by simp [Turn.take?, found]
      simpa only [Way.take?, turn, Option.bind_some] using ih

-- Errors with the ways to the values that they are about: exactly those that offend, in the order of the document.
structure Located (offends : Way → Problem → Prop) (problems : List Problem) (found : List (Way × Problem)) : Prop where
  problems : found.map Prod.snd = problems
  ordered : found.Pairwise fun one other => Way.IsBefore one.1 other.1
  exact : ∀ way problem, (way, problem) ∈ found ↔ offends way problem

def OffendsFrom (index : Nat) (offends : Way → Problem → Prop) (way : Way) (problem : Problem) : Prop :=
  offends way problem ∧ ∃ turn rest, way = turn :: rest ∧ index ≤ turn.index

theorem located_own (spec : FieldSpec) (path name : String) (value : Value) (filled : value ≠ .null)
    (closed : ∀ way problem, Offends spec path name value way problem → way = []) :
    ∃ found, Located (Offends spec path name value) (ownProblem? value spec path name).toList found := by
  refine ⟨(ownProblem? value spec path name).toList.map fun problem => ([], problem), ?_, ?_, fun way problem => ?_⟩
  · rw [List.map_map]
    exact List.map_id _
  · cases ownProblem? value spec path name <;> simp
  · simp only [List.mem_map, Option.mem_toList, Prod.mk.injEq]
    constructor
    · rintro ⟨_, own, rfl, rfl⟩
      exact .here spec path name value _ filled own
    · intro offends
      obtain rfl := closed way problem offends
      cases offends with
      | here _ _ _ _ _ _ own => exact ⟨problem, own, rfl, rfl⟩

theorem located_next (outer inner : Way → Problem → Prop) (turn : Turn) (first second : List Problem)
    (parts : ∀ way problem, OffendsFrom turn.index outer way problem ↔
      (∃ rest, way = turn :: rest ∧ inner rest problem) ∨ OffendsFrom (turn.index + 1) outer way problem)
    (one : ∃ found, Located inner first found) (others : ∃ found, Located (OffendsFrom (turn.index + 1) outer) second found) :
    ∃ found, Located (OffendsFrom turn.index outer) (first ++ second) found := by
  obtain ⟨here, one⟩ := one
  obtain ⟨behind, others⟩ := others
  refine ⟨here.map (fun pair => (turn :: pair.1, pair.2)) ++ behind, ?_, ?_, fun way problem => ?_⟩
  · rw [List.map_append, List.map_map, others.problems, ← one.problems]
    rfl
  · refine List.pairwise_append.mpr ⟨?_, others.ordered, List.forall_mem_map.mpr fun pair _ later member => ?_⟩
    · exact List.pairwise_map.mpr (one.ordered.imp fun before => Way.before_behind turn _ _ before)
    · obtain ⟨-, start, rest, same, far⟩ := (others.exact later.1 later.2).mp member
      rw [same]
      exact Way.before_apart turn start pair.1 rest far
  · rw [List.mem_append, others.exact, parts, List.mem_map]
    refine or_congr_left ⟨?_, ?_⟩
    · rintro ⟨⟨rest, other⟩, member, same⟩
      cases same
      exact ⟨rest, rfl, (one.exact rest other).mp member⟩
    · rintro ⟨rest, rfl, offends⟩
      exact ⟨(rest, problem), (one.exact rest problem).mpr offends, rfl⟩

theorem located_end (outer : Way → Problem → Prop) (nothing : ∀ way problem, ¬ outer way problem) :
    ∃ found, Located outer [] found :=
  ⟨[], rfl, .nil, fun way problem =>
    ⟨fun member => absurd member List.not_mem_nil, fun offends => absurd offends (nothing way problem)⟩⟩

theorem located_same (one other : Way → Problem → Prop) (problems : List Problem)
    (same : ∀ way problem, one way problem ↔ other way problem) (located : ∃ found, Located one problems found) :
    ∃ found, Located other problems found := by
  obtain ⟨found, located⟩ := located
  exact ⟨found, located.problems, located.ordered, fun way problem => (located.exact way problem).trans (same way problem)⟩

section

variable (spec : FieldSpec) (path name : String)

theorem item_parts (itemSpec : FieldSpec) (front : List Value) (item : Value) (items : List Value) (array : spec.kind = .array)
    (known : spec.items = some itemSpec) (way : Way) (problem : Problem) :
    OffendsFrom front.length (Offends spec path name (.list (front ++ item :: items))) way problem ↔
      (∃ rest, way = .item front.length :: rest ∧
        Offends itemSpec (indexed path front.length) (indexed name front.length) item rest problem) ∨
      OffendsFrom (front.length + 1) (Offends spec path name (.list (front ++ item :: items))) way problem := by
  constructor
  · rintro ⟨offends, turn, rest, rfl, far⟩
    cases offends with
    | item _ inner _ _ _ index held _ _ _ same found inside =>
        obtain rfl : itemSpec = inner := Option.some.inj (known.symm.trans same)
        obtain here | later := Nat.eq_or_lt_of_le far
        · obtain rfl : front.length = index := here
          obtain rfl : item = held := by simpa using found
          exact .inl ⟨rest, rfl, inside⟩
        · exact .inr ⟨.item _ _ _ _ _ index held rest problem array known found inside, _, rest, rfl, later⟩
  · rintro (⟨rest, rfl, inside⟩ | ⟨offends, turn, rest, rfl, far⟩)
    · exact ⟨.item _ _ _ _ _ _ item rest problem array known (by simp) inside, _, rest, rfl, Nat.le_refl _⟩
    · exact ⟨offends, turn, rest, rfl, by omega⟩

theorem property_parts (field : FieldSpec) (front : Entries) (key : String) (held : Value) (entries : Entries)
    (object : spec.kind = .object) (known : spec.properties.lookup key = some field) (way : Way) (problem : Problem) :
    OffendsFrom front.length (Offends spec path name (.map (front ++ (.str key, held) :: entries))) way problem ↔
      (∃ rest, way = .entry front.length key :: rest ∧ Offends field (keyed path key) key held rest problem) ∨
      OffendsFrom (front.length + 1) (Offends spec path name (.map (front ++ (.str key, held) :: entries))) way problem := by
  constructor
  · rintro ⟨offends, turn, rest, rfl, far⟩
    cases offends with
    | property _ inner _ _ _ index other value _ _ _ same found inside =>
        obtain here | later := Nat.eq_or_lt_of_le far
        · obtain rfl : front.length = index := here
          obtain ⟨rfl, rfl⟩ : key = other ∧ held = value := by simpa using found
          obtain rfl : field = inner := Option.some.inj (known.symm.trans same)
          exact .inl ⟨rest, rfl, inside⟩
        · exact .inr ⟨.property _ _ _ _ _ index other value rest problem object same found inside, _, rest, rfl, later⟩
  · rintro (⟨rest, rfl, inside⟩ | ⟨offends, turn, rest, rfl, far⟩)
    · exact ⟨.property _ _ _ _ _ _ key held rest problem object known (by simp) inside, _, rest, rfl, Nat.le_refl _⟩
    · exact ⟨offends, turn, rest, rfl, by omega⟩

theorem unknown_parts (front : Entries) (entry : Scalar × Value) (entries : Entries)
    (unknown : ∀ key, entry.1 = .str key → spec.properties.lookup key = none) (way : Way) (problem : Problem) :
    OffendsFrom front.length (Offends spec path name (.map (front ++ entry :: entries))) way problem ↔
      OffendsFrom (front.length + 1) (Offends spec path name (.map (front ++ entry :: entries))) way problem := by
  constructor
  · rintro ⟨offends, turn, rest, rfl, far⟩
    refine ⟨offends, turn, rest, rfl, ?_⟩
    obtain here | later := Nat.eq_or_lt_of_le far
    · cases offends with
      | property _ _ _ _ _ index key value _ _ _ known found =>
          obtain rfl : front.length = index := here
          obtain rfl : entry = (.str key, value) := by simpa using found
          rw [unknown key rfl] at known
          cases known
    · exact later
  · rintro ⟨offends, turn, rest, rfl, far⟩
    exact ⟨offends, turn, rest, rfl, by omega⟩

theorem list_starts (items : List Value) (array : spec.kind = .array) (way : Way) (problem : Problem) :
    OffendsFrom 0 (Offends spec path name (.list items)) way problem ↔ Offends spec path name (.list items) way problem := by
  refine ⟨fun from_start => from_start.1, fun offends => ⟨offends, ?_⟩⟩
  cases offends with
  | here _ _ _ _ _ _ own => rw [list_no_problem spec path name items array] at own; cases own
  | item => exact ⟨_, _, rfl, Nat.zero_le _⟩

theorem map_starts (entries : Entries) (object : spec.kind = .object) (way : Way) (problem : Problem) :
    OffendsFrom 0 (Offends spec path name (.map entries)) way problem ↔ Offends spec path name (.map entries) way problem := by
  refine ⟨fun from_start => from_start.1, fun offends => ⟨offends, ?_⟩⟩
  cases offends with
  | here _ _ _ _ _ _ own => rw [map_no_problem spec path name entries object] at own; cases own
  | property => exact ⟨_, _, rfl, Nat.zero_le _⟩

end

mutual

theorem value_problems_at (spec : FieldSpec) (path name : String) :
    (value : Value) → ∃ found, Located (Offends spec path name value) (valueProblems spec path name value) found
  | .scalar s => by
      cases s with
      | null =>
          refine located_end _ fun way problem offends => ?_
          cases offends with
          | here _ _ _ _ _ filled => exact filled rfl
      | _ =>
          refine located_own spec path name _ (by simp) fun way problem offends => ?_
          cases offends
          rfl
  | .list items => by
      have inside (inner : FieldSpec) := item_problems_at spec inner path name [] items
      unfold valueProblems
      split
      · rename_i inner array known
        exact located_same _ _ _ (list_starts spec path name items array) (inside inner array known)
      · rename_i closed
        refine located_own spec path name _ (by simp) fun way problem offends => ?_
        cases offends with
        | here => rfl
        | item _ inner _ _ _ _ _ _ _ array known => exact absurd known (closed inner array)
  | .map entries => by
      have inside := entry_problems_at spec path name [] entries
      unfold valueProblems
      split
      · rename_i property properties object known
        exact located_same _ _ _ (map_starts spec path name entries object) (known ▸ inside object)
      · rename_i closed
        refine located_own spec path name _ (by simp) fun way problem offends => ?_
        cases offends with
        | here => rfl
        | property _ field _ _ _ _ _ _ _ _ object known =>
            cases listed : spec.properties with
            | nil => rw [listed] at known; cases known
            | cons property properties => exact absurd listed (closed property properties object)

theorem item_problems_at (spec itemSpec : FieldSpec) (path name : String) (front : List Value) :
    (items : List Value) → spec.kind = .array → spec.items = some itemSpec →
      ∃ found, Located (OffendsFrom front.length (Offends spec path name (.list (front ++ items))))
        (itemProblems itemSpec path name front.length items) found
  | [] => by
      intro _ _
      refine located_end _ ?_
      rintro _ problem ⟨offends, turn, rest, rfl, far⟩
      cases offends with
      | item _ _ _ _ _ _ _ _ _ _ _ found =>
          rw [List.append_nil] at found
          exact absurd (found.symm.trans (List.getElem?_eq_none far)) (by simp)
  | item :: items => by
      intro array known
      have first := value_problems_at itemSpec (indexed path front.length) (indexed name front.length) item
      have others := item_problems_at spec itemSpec path name (front ++ [item]) items array known
      rw [List.length_append, List.append_assoc] at others
      unfold itemProblems
      have parts := item_parts spec path name itemSpec front item items array known
      exact located_next _ _ (.item front.length) _ _ parts first others

theorem entry_problems_at (spec : FieldSpec) (path name : String) (front : Entries) :
    (entries : Entries) → spec.kind = .object →
      ∃ found, Located (OffendsFrom front.length (Offends spec path name (.map (front ++ entries))))
        (entryProblems spec.properties path entries) found
  | [] => by
      intro _
      refine located_end _ ?_
      rintro _ problem ⟨offends, turn, rest, rfl, far⟩
      cases offends with
      | property _ _ _ _ _ _ _ _ _ _ _ _ found =>
          rw [List.append_nil] at found
          exact absurd (found.symm.trans (List.getElem?_eq_none far)) (by simp)
  | (key, value) :: entries => by
      intro object
      have first (field : FieldSpec) (name : String) := value_problems_at field (keyed path name) name value
      have others := entry_problems_at spec path name (front ++ [(key, value)]) entries object
      rw [List.length_append, List.append_assoc] at others
      unfold entryProblems
      split
      · rename_i key
        split
        · rename_i field known
          exact located_next _ _ (.entry front.length key) _ _
            (property_parts spec path name field front key value entries object known) (first field key) others
        · rename_i unknown
          have parts := unknown_parts spec path name front (.str key, value) entries ?_
          · exact located_same _ _ _ (fun way problem => (parts way problem).symm) others
          rintro _ ⟨⟩
          exact unknown
      · rename_i no_text
        refine located_same _ _ _ (fun way problem => (unknown_parts spec path name front _ entries ?_ way problem).symm) others
        exact fun other same => absurd same (no_text other)

end

-- The errors of a value belong to different values in it that are not null, each error to the one that its path leads to, and
-- they come in the order in which these values are written. They are the errors that values in it have by themselves.
theorem value_problems_placed (spec : FieldSpec) (path name : String) (value : Value) :
    ∃ found : List (Way × Problem), found.map Prod.snd = valueProblems spec path name value ∧
      (found.map Prod.fst).Nodup ∧ (found.map Prod.fst).Pairwise Way.IsBefore ∧
      (∀ pair ∈ found, pair.2.path = Way.below path pair.1 ∧ ∃ held, Way.take? value pair.1 = some held ∧ held ≠ .null) ∧
      ∀ way problem, (way, problem) ∈ found ↔ Offends spec path name value way problem := by
  obtain ⟨found, located⟩ := value_problems_at spec path name value
  have ordered : (found.map Prod.fst).Pairwise Way.IsBefore := List.pairwise_map.mpr located.ordered
  refine ⟨found, located.problems, ordered.imp fun {way other} before same => ?_, ordered, fun pair member => ?_, located.exact⟩
  · subst same
    exact Way.before_irreflexive way before
  · have offends := (located.exact pair.1 pair.2).mp member
    exact ⟨offends_path spec path name value pair.1 pair.2 offends, offends_filled spec path name value pair.1 pair.2 offends⟩

end PipelineLint.Validation
