import Mathlib.Algebra.Group.Nat.Defs
import PipelineLint.Proofs.BlockReadings
import PipelineLint.Proofs.FlowFronts
import PipelineLint.Proofs.JsonSpacing
import PipelineLint.Value.Display

set_option autoImplicit false

namespace PipelineLint

def Scalar.isOrdinary : Scalar → Bool
  | .moment _ => false
  | .sealed _ _ => false
  | s => s.isShowable

inductive Value.Ordinary : Value → Prop where
  | scalar (s : Scalar) (ordinary : s.isOrdinary = true) : Ordinary (.scalar s)
  | list (items : List Value) (each : ∀ item ∈ items, Ordinary item) : Ordinary (.list items)
  | map (entries : Entries) (keys : ∀ entry ∈ entries, entry.1.isOrdinary = true)
      (values : ∀ entry ∈ entries, Ordinary entry.2) : Ordinary (.map entries)

structure Entries.Ordinary (entries : Entries) : Prop where
  keys : ∀ entry ∈ entries, entry.1.isOrdinary = true
  values : ∀ entry ∈ entries, entry.2.Ordinary

theorem ordinary_key (value : Value) (key : Scalar) (ordinary : value.Ordinary) (found : value.key? = some key) :
    key.isOrdinary = true := by
  cases ordinary with
  | scalar s plain =>
      cases found
      exact plain
  | list => cases found
  | map => cases found

theorem ordinary_put (entries : Entries) (key : Scalar) (value : Value) (ordinary : Entries.Ordinary entries)
    (plain : key.isOrdinary = true) (inside : value.Ordinary) : Entries.Ordinary (entries.put key value) := by
  induction entries with
  | nil => exact ⟨List.forall_mem_singleton.mpr plain, List.forall_mem_singleton.mpr inside⟩
  | cons entry rest ih =>
      obtain ⟨old, held⟩ := entry
      obtain ⟨old_plain, rest_plain⟩ := List.forall_mem_cons.mp ordinary.keys
      obtain ⟨held_inside, rest_inside⟩ := List.forall_mem_cons.mp ordinary.values
      rw [Entries.put]
      split
      · exact ⟨List.forall_mem_cons.mpr ⟨old_plain, rest_plain⟩, List.forall_mem_cons.mpr ⟨inside, rest_inside⟩⟩
      · obtain ⟨keys, values⟩ := ih ⟨rest_plain, rest_inside⟩
        exact ⟨List.forall_mem_cons.mpr ⟨old_plain, keys⟩, List.forall_mem_cons.mpr ⟨held_inside, values⟩⟩

theorem ordinary_put_all (entries others : Entries) (first : Entries.Ordinary entries) (second : Entries.Ordinary others) :
    Entries.Ordinary (Entries.putAll entries others) := by
  unfold Entries.putAll
  induction others generalizing entries with
  | nil => exact first
  | cons entry rest ih =>
      obtain ⟨plain, keys⟩ := List.forall_mem_cons.mp second.keys
      obtain ⟨inside, values⟩ := List.forall_mem_cons.mp second.values
      exact ih _ (ordinary_put entries entry.1 entry.2 first plain inside) ⟨keys, values⟩

theorem ordinary_nothing : Entries.Ordinary [] :=
  ⟨by simp, by simp⟩

theorem ordinary_map (entries : Entries) : (Value.map entries).Ordinary ↔ Entries.Ordinary entries := by
  constructor
  · rintro (_ | _ | ⟨_, keys, values⟩)
    exact ⟨keys, values⟩
  · intro ordinary
    exact .map entries ordinary.keys ordinary.values

mutual

theorem ordinary_showable : (value : Value) → value.Ordinary → value.isShowable = true
  | .scalar s, .scalar _ ordinary => by
      cases s <;> first | exact ordinary | rfl
  | .list items, .list _ each => ordinary_items_showable items each
  | .map entries, .map _ keys values => ordinary_entries_showable entries keys values

theorem ordinary_items_showable : (items : List Value) → (∀ item ∈ items, item.Ordinary) → itemsShowable items = true
  | [], _ => rfl
  | item :: rest, each => by
      rw [itemsShowable, ordinary_showable item (each item List.mem_cons_self),
        ordinary_items_showable rest fun other member => each other (List.mem_cons_of_mem _ member)]
      rfl

theorem ordinary_entries_showable : (entries : List (Scalar × Value)) → (∀ entry ∈ entries, entry.1.isOrdinary = true) →
    (∀ entry ∈ entries, entry.2.Ordinary) → entriesShowable entries = true
  | [], _, _ => rfl
  | (key, value) :: rest, keys, values => by
      have shown := ordinary_showable value (values _ List.mem_cons_self)
      have others := ordinary_entries_showable rest (fun entry member => keys entry (List.mem_cons_of_mem _ member))
        fun entry member => values entry (List.mem_cons_of_mem _ member)
      have key_shown := ordinary_showable (.scalar key) (.scalar key (keys _ List.mem_cons_self))
      rw [Value.isShowable] at key_shown
      rw [entriesShowable, key_shown, shown, others]
      rfl

end

/-! ## Scalars -/

theorem digit_below_ten (c : Char) : (Text.digitValue? c).getD 0 < 10 := by
  unfold Text.digitValue?
  split
  · split
    · rename_i digit
      simp only [Char.isDigit, Bool.and_eq_true, decide_eq_true_eq] at digit
      have most : c.toNat ≤ 57 := digit.2
      simp only [Option.getD_some]
      omega
    · decide
  · cases found : Text.digitZeros.find? fun base => base ≤ c.toNat && c.toNat < base + 10 with
    | none => exact Nat.succ_pos 9
    | some base =>
        have inside := List.find?_some found
        simp only [Bool.and_eq_true, decide_eq_true_eq] at inside
        simp only [Option.map_some, Option.getD_some]
        omega

theorem digits_value_below (digits : List Char) : Text.digitsValue digits < 10 ^ digits.length := by
  have along (digits : List Char) (value bound : Nat) (below : value < bound) :
      digits.foldl (fun value c => value * 10 + (Text.digitValue? c).getD 0) value < bound * 10 ^ digits.length := by
    induction digits generalizing value bound with
    | nil => simpa using below
    | cons c digits ih =>
        have digit := digit_below_ten c
        have next := ih (value * 10 + (Text.digitValue? c).getD 0) (bound * 10) (by omega)
        rwa [List.length_cons, Nat.pow_succ', ← Nat.mul_assoc]
  simpa [Text.digitsValue] using along digits 0 1 Nat.one_pos

theorem bounded_ordinary (negative : Bool) (digits : List Char) (i : Int)
    (bounded : Numeral.boundedValue? negative digits = some i) : (Value.int i).Ordinary := by
  refine .scalar _ ?_
  unfold Numeral.boundedValue? at bounded
  split at bounded
  · cases bounded
  · rename_i few
    have size : i.natAbs = Text.digitsValue digits := by
      simp only [Option.some.injEq] at bounded
      subst bounded
      split <;> simp
    have below := digits_value_below digits
    simp only [Scalar.isOrdinary, Scalar.isShowable, decide_eq_true_eq, size]
    generalize Numeral.maxDigits = most at few ⊢
    exact Nat.lt_of_lt_of_le below (Nat.pow_le_pow_right (by decide) (Nat.not_lt.mp few))

theorem plain_ordinary (text : List Char) (value : Value) (read : Document.coercePlain text = .ok value) : value.Ordinary := by
  unfold Document.coercePlain at read
  simp only at read
  split at read
  · cases read
    exact .scalar _ rfl
  · split at read
    · cases read
      exact .scalar _ rfl
    · split at read
      · cases read
        exact .scalar _ rfl
      · split at read
        · split at read
          · cases read
            exact bounded_ordinary _ _ _ ‹_›
          · cases read
        · split at read
          · cases read
            exact .scalar _ rfl
          · cases read
            exact .scalar _ rfl

theorem text_ordinary (s : String) : (Value.str s).Ordinary :=
  .scalar _ rfl

/-! ## Readings -/

def Gives {α σ : Type} (holds : α → Prop) (taken : Option (α × σ)) : Prop :=
  ∀ value rest, taken = some (value, rest) → holds value

section

variable {α β σ τ ε : Type} (holds : α → Prop) (also : β → Prop)

theorem gives_none : Gives holds (none : Option (α × σ)) := by
  rintro value rest ⟨⟩

theorem gives_some (value : α) (rest : σ) (held : holds value) : Gives holds (some (value, rest)) := by
  rintro _ _ ⟨⟩
  exact held

theorem gives_bind (taken : Option (α × σ)) (next : α × σ → Option (β × τ))
    (onward : ∀ value rest, taken = some (value, rest) → Gives also (next (value, rest))) : Gives also (taken.bind next) := by
  cases taken with
  | none => exact gives_none also
  | some front => exact onward front.1 front.2 rfl

theorem gives_map (give : α → β) (taken : Option (α × σ)) (first : Gives holds taken) (kept : ∀ value, holds value → also (give value)) :
    Gives also (taken.map fun front => (give front.1, front.2)) := by
  cases taken with
  | none => exact gives_none also
  | some front => exact gives_some also _ _ (kept _ (first _ _ rfl))

theorem gives_then (taken : Except ε (α × σ)) (next : α × σ → Except ε (β × τ))
    (onward : ∀ value rest, taken = .ok (value, rest) → Gives also (next (value, rest)).toOption) :
    Gives also (taken.bind next).toOption := by
  cases taken with
  | error fault => exact gives_none also
  | ok front => exact onward front.1 front.2 rfl

theorem gives_turned (give : α → β) (taken : Except ε (α × σ)) (first : Gives holds taken.toOption)
    (kept : ∀ value, holds value → also (give value)) :
    Gives also (taken.map fun front => (give front.1, front.2)).toOption := by
  cases taken with
  | error fault => exact gives_none also
  | ok front => exact gives_some also _ _ (kept _ (first _ _ rfl))

end

/-! ## Values on one line -/

namespace Document

theorem plain_front_ordinary (stops text : List Char) : Gives Value.Ordinary (plainFront? stops text) := by
  unfold plainFront?
  split
  · exact gives_some _ _ _ (plain_ordinary _ _ ‹_›)
  · exact gives_none _

mutual

theorem flow_ordinary (whole stops text : List Char) : Gives Value.Ordinary (flowFront? whole stops text) := by
  cases text with
  | nil =>
      rw [flow_front_nil]
      exact gives_none _
  | cons c rest =>
      rw [flow_front_cons]
      split
      · exact flow_ordinary whole stops rest
      · split
        · exact gives_map _ _ Value.list _ (flow_items_ordinary whole rest) fun items each => .list items each
        · split
          · exact gives_map _ _ Value.map _ (flow_entries_ordinary whole [] rest ordinary_nothing)
              fun entries ordinary => (ordinary_map entries).mpr ordinary
          · split
            · exact gives_map (fun _ => True) _ (fun content => Value.str (String.ofList content)) _ (fun _ _ _ => trivial)
                fun content _ => text_ordinary _
            · exact plain_front_ordinary stops (c :: rest)
termination_by 2 * text.length
decreasing_by
  all_goals simp only [List.length_cons]
  all_goals omega

theorem flow_items_ordinary (whole text : List Char) :
    Gives (fun items => ∀ item ∈ items, Value.Ordinary item) (itemsFront? whole text) := by
  rw [items_front]
  split
  · exact gives_some _ _ _ (by simp)
  · refine gives_bind _ _ _ fun item after found => ?_
    have held := flow_ordinary whole itemStops text item after found
    have shorter := front_shorter whole itemStops text item after found
    dsimp only
    split
    · rename_i more next
      have fewer := spaces_shorter after more ',' next
      exact gives_map _ _ (item :: ·) _ (flow_items_ordinary whole more) fun items each => List.forall_mem_cons.mpr ⟨held, each⟩
    · exact gives_some _ _ _ (List.forall_mem_singleton.mpr held)
    · exact gives_none _
termination_by 2 * text.length + 1

theorem flow_entries_ordinary (whole : List Char) (entries : Entries) (text : List Char) (before : Entries.Ordinary entries) :
    Gives Entries.Ordinary (entriesFront? whole entries text) := by
  rw [entries_front]
  split
  · exact gives_some _ _ _ before
  · refine gives_bind _ _ _ fun named behind found => gives_bind _ _ _ fun value after given => ?_
    have first := front_shorter whole keyStops text named behind found
    have second := behind_key_shorter whole behind value after given
    have held : value.Ordinary := by
      unfold behindKey? behindColon? at given
      split at given
      · rename_i rest colon
        have fewer := spaces_shorter behind rest ':' colon
        split at given
        · cases given
          exact .scalar _ rfl
        · cases given
          exact .scalar _ rfl
        · exact flow_ordinary whole entryStops rest value after given
      · cases given
        exact .scalar _ rfl
    dsimp only
    cases keyed : named.key? with
    | none => exact gives_none _
    | some key =>
        have plain := ordinary_key named key (flow_ordinary whole keyStops text named behind found) keyed
        have more_entries := ordinary_put entries key value before plain held
        simp only [Option.bind_some]
        split
        · rename_i more next
          have fewer := spaces_shorter after more ',' next
          exact flow_entries_ordinary whole _ more more_entries
        · exact gives_some _ _ _ more_entries
        · exact gives_none _
termination_by 2 * text.length + 1

end

theorem inline_ordinary (text : List Char) (value : Value) (read : readInline text = .ok value) : value.Ordinary := by
  unfold readInline at read
  split at read
  · cases read
    exact .scalar _ rfl
  · rename_i c rest _
    split at read
    · unfold readFlow at read
      cases taken : takeFlow (c :: rest) (']' :: entryStops) (c :: rest) with
      | error fault =>
          rw [taken] at read
          cases read
      | ok front =>
          have front_read : flowFront? (c :: rest) (']' :: entryStops) (c :: rest) = some (front.1, front.2.1) := by
            rw [flowFront?, taken]
            rfl
          rw [taken] at read
          simp only at read
          split at read
          · cases read
            exact flow_ordinary _ _ _ _ _ front_read
          · cases read
    · split at read
      · split at read
        · cases read
        · split at read
          · cases read
            exact text_ordinary _
          · cases read
      · exact plain_ordinary _ value read

/-! ## Blocks -/

theorem gathered_ordinary (piece : Line → List Char) (finish : List Char → List Char) (text : List Char) (cursor : Cursor) :
    Gives Value.Ordinary (placed (readGathered piece finish text cursor)).toOption := by
  rw [gathered_reading]
  split
  · exact gives_some _ _ _ (inline_ordinary _ _ ‹_›)
  · exact gives_none _

theorem scalar_ordinary (text : List Char) (parent : Nat) (cursor : Cursor) :
    Gives Value.Ordinary (placed (readScalar text parent cursor)).toOption := by
  rw [scalar_reading]
  split
  · exact gives_some _ _ _ (text_ordinary _)
  · split
    · exact gathered_ordinary _ _ text cursor
    · split
      · exact gathered_ordinary _ _ text cursor
      · dsimp only
        split
        · exact gives_some _ _ _ (plain_ordinary _ _ ‹_›)
        · exact gives_none _

theorem null_ordinary : Value.null.Ordinary :=
  .scalar _ rfl

theorem settled_lighter (cursor : Cursor) (number : Nat) (line : Line) (rest : List Line)
    (settled : settle cursor.number cursor.lines = ⟨number, line :: rest⟩) : weightOf (line :: rest) ≤ weightOf cursor.lines := by
  have lighter := weightOf_suffix (settle_suffix cursor.number cursor.lines)
  rwa [settled] at lighter

mutual

theorem block_ordinary (number : Nat) (line : Line) (rest : List Line) :
    Gives Value.Ordinary (blockReading number line rest).toOption := by
  rw [block_reading]
  cases behind : line.afterDash? with
  | none => exact mapping_ordinary line.indent [] number line rest ordinary_nothing
  | some item =>
      have lighter := weight_afterDash? behind
      exact sequence_ordinary line.indent [] line.indent item number rest (by simp)
termination_by 4 * weightOf (line :: rest) + 1
decreasing_by
  all_goals simp only [weightOf_cons]
  all_goals omega

theorem mapping_ordinary (indent : Nat) (entries : Entries) (number : Nat) (line : Line) (rest : List Line)
    (before : Entries.Ordinary entries) : Gives Value.Ordinary (mappingReading indent entries number line rest).toOption := by
  have positive := weight_pos line
  rw [mapping_reading]
  split
  · exact gives_none _
  · rename_i head _
    cases head.key.read with
    | error fault => exact gives_none _
    | ok key =>
        refine gives_then _ _ _ fun value place found => ?_
        have held := value_ordinary head.value line.indent ⟨number + 1, rest⟩ value place (by rw [found]; rfl)
        have left := weightOf_suffix (placed_suffix _ _ _ found)
        have more_entries := ordinary_put entries (.str key) value before rfl held
        cases settled : settle place.number place.lines with
        | mk nextNumber lines =>
            cases lines with
            | nil => exact gives_some _ _ _ ((ordinary_map _).mpr more_entries)
            | cons next more =>
                have lighter := settled_lighter place nextNumber next more settled
                simp only [mappingBehind]
                split
                · exact gives_some _ _ _ ((ordinary_map _).mpr more_entries)
                · split
                  · split
                    · exact gives_some _ _ _ ((ordinary_map _).mpr more_entries)
                    · exact gives_none _
                  · exact mapping_ordinary indent _ nextNumber next more more_entries
termination_by 4 * weightOf (line :: rest)
decreasing_by
  all_goals simp only [weightOf_cons] at *
  all_goals omega

theorem sequence_ordinary (indent : Nat) (items : List Value) (dash : Nat) (item : Line) (number : Nat) (rest : List Line)
    (before : ∀ item ∈ items, Value.Ordinary item) :
    Gives Value.Ordinary (sequenceReading indent items dash item number rest).toOption := by
  have positive := weight_pos item
  rw [sequence_reading]
  refine gives_then _ _ _ fun value place found => ?_
  have held := item_ordinary dash item number rest value place (by rw [found]; rfl)
  have left := weightOf_suffix (placed_suffix _ _ _ found)
  have more_items : ∀ item ∈ items ++ [value], Value.Ordinary item :=
    List.forall_mem_append.mpr ⟨before, List.forall_mem_singleton.mpr held⟩
  cases settled : settle place.number place.lines with
  | mk nextNumber lines =>
      cases lines with
      | nil => exact gives_some _ _ _ (.list _ more_items)
      | cons next more =>
          have lighter := settled_lighter place nextNumber next more settled
          simp only [sequenceBehind]
          split
          · exact gives_some _ _ _ (.list _ more_items)
          · cases behind : next.afterDash? with
            | none =>
                simp only
                split
                · exact gives_some _ _ _ (.list _ more_items)
                · exact gives_none _
            | some nextItem =>
                have shorter := weight_afterDash? behind
                exact sequence_ordinary indent _ next.indent nextItem nextNumber more more_items
termination_by 4 * weightOf (item :: rest) + 3
decreasing_by
  all_goals simp only [weightOf_cons] at *
  all_goals omega

theorem item_ordinary (dash : Nat) (item : Line) (number : Nat) (rest : List Line) :
    Gives Value.Ordinary (itemReading dash item number rest).toOption := by
  have positive := weight_pos item
  rw [item_reading]
  split
  · cases settled : settle (number + 1) rest with
    | mk nextNumber lines =>
        cases lines with
        | nil => exact gives_some _ _ _ null_ordinary
        | cons next more =>
            have lighter := settled_lighter ⟨number + 1, rest⟩ nextNumber next more settled
            simp only [itemBelow]
            split
            · exact block_ordinary nextNumber next more
            · exact gives_some _ _ _ null_ordinary
  · split
    · exact block_ordinary number item rest
    · exact value_ordinary item.body dash ⟨number + 1, rest⟩
termination_by 4 * weightOf (item :: rest) + 2
decreasing_by
  all_goals simp only [weightOf_cons] at *
  all_goals omega

theorem value_ordinary (text : List Char) (parent : Nat) (cursor : Cursor) :
    Gives Value.Ordinary (valueReading text parent cursor).toOption := by
  rw [value_reading]
  split
  · cases settled : settle cursor.number cursor.lines with
    | mk nextNumber lines =>
        cases lines with
        | nil => exact gives_some _ _ _ null_ordinary
        | cons next more =>
            have lighter := settled_lighter cursor nextNumber next more settled
            simp only [valueBelow]
            split
            · exact block_ordinary nextNumber next more
            · split
              · cases behind : next.afterDash? with
                | none => exact gives_some _ _ _ null_ordinary
                | some item =>
                    have shorter := weight_afterDash? behind
                    exact sequence_ordinary next.indent [] next.indent item nextNumber more (by simp)
              · exact gives_some _ _ _ null_ordinary
  · exact scalar_ordinary _ parent cursor
termination_by 4 * weightOf cursor.lines + 2
decreasing_by
  all_goals simp only [weightOf_cons] at *
  all_goals omega

end

theorem more_ordinary (value : Value) (cursor : Cursor) (ordinary : value.Ordinary) (whole : Value)
    (read : readMore value cursor = .ok whole) : whole.Ordinary := by
  rw [more_reading] at read
  cases settled : settle cursor.number cursor.lines with
  | mk number lines =>
      rw [settled] at read
      cases lines with
      | nil =>
          cases read
          exact ordinary
      | cons line rest =>
          have lighter := settled_lighter cursor number line rest settled
          have positive := weight_pos line
          simp only at read
          cases block : blockReading number line rest with
          | error fault =>
              rw [block] at read
              cases read
          | ok found =>
              have left := weightOf_suffix (placed_suffix _ _ _ block)
              have held := block_ordinary number line rest found.1 found.2 (by rw [block]; rfl)
              rw [block] at read
              simp only [Except.bind] at read
              cases joins : joined? value found.1 with
              | none =>
                  rw [joins] at read
                  cases read
              | some both =>
                  rw [joins] at read
                  refine more_ordinary both found.2 ?_ whole read
                  unfold joined? at joins
                  split at joins
                  · cases joins
                    rename_i entries others same
                    rw [same] at held
                    exact (ordinary_map _).mpr
                      (ordinary_put_all entries others ((ordinary_map _).mp ordinary) ((ordinary_map _).mp held))
                  · cases joins
termination_by weightOf cursor.lines
decreasing_by
  simp only [weightOf_cons] at *
  omega

theorem lines_ordinary (lines : List Line) (value : Value) (read : readLines lines = .ok value) : value.Ordinary := by
  rw [lines_reading] at read
  split at read
  · cases read
    exact (ordinary_map _).mpr ordinary_nothing
  · rename_i number line rest _
    cases block : blockReading number line rest with
    | error fault =>
        rw [block] at read
        cases read
    | ok found =>
        have held := block_ordinary number line rest found.1 found.2 (by rw [block]; rfl)
        rw [block] at read
        exact more_ordinary found.1 found.2 held value read

end Document

/-! ## JSON -/

namespace Json

theorem number_of_ordinary (negative : Bool) (whole fraction : List Char) (exponent : Option Int) (value : Value)
    (read : numberOf negative whole fraction exponent = .ok value) : value.Ordinary := by
  unfold numberOf at read
  split at read
  · split at read
    · cases read
      exact bounded_ordinary _ _ _ ‹_›
    · cases read
  · cases read
    exact .scalar _ rfl

theorem number_ordinary (negative : Bool) (text : List Char) :
    Gives Value.Ordinary (frontOf (takeNumber negative text)).toOption := by
  rw [number_front]
  refine gives_then _ _ _ fun whole rest _ => ?_
  dsimp only
  cases number : numberOf negative whole (takeFraction rest).1 (takeExponent (takeFraction rest).2).1 with
  | error fault => exact gives_none _
  | ok value => exact gives_some _ _ _ (number_of_ordinary _ _ _ _ value number)

theorem simple_ordinary (text : List Char) : Gives Value.Ordinary (frontOf (takeSimple text)).toOption := by
  cases word : takeWord? text with
  | some front =>
      have ordinary : ∀ entry ∈ words, entry.2.Ordinary := by
        simp only [words, List.forall_mem_cons]
        refine ⟨?_, ?_, ?_, ?_, ?_, ?_, by simp⟩ <;> exact .scalar _ rfl
      obtain ⟨⟨name, held⟩, member, found⟩ := List.exists_of_findSome?_eq_some word
      obtain ⟨rest, -, same⟩ := Option.map_eq_some_iff.mp found
      rw [simple_word text front.2 front.1 word]
      rw [← same]
      exact gives_some _ _ _ (ordinary _ member)
  | none =>
      rw [simple_other text word]
      by_cases minus : ∃ rest, text = '-' :: rest
      · obtain ⟨rest, rfl⟩ := minus
        rw [signed_minus]
        exact number_ordinary true rest
      · rw [signed_plain text fun rest found => minus ⟨rest, found⟩]
        exact number_ordinary false text

mutual

theorem json_ordinary (levels : Levels) (text : List Char) : Gives Value.Ordinary (valueFront levels text).toOption := by
  by_cases quote : ∃ rest, text = '"' :: rest
  · obtain ⟨rest, rfl⟩ := quote
    rw [value_string]
    exact gives_turned (fun _ => True) _ Value.str _ (fun _ _ _ => trivial) fun s _ => text_ordinary s
  · by_cases list : ∃ rest, text = '[' :: rest
    · obtain ⟨rest, rfl⟩ := list
      rw [value_list]
      cases levels.inside with
      | error fault => exact gives_none _
      | ok inside =>
          simp only [Except.bind]
          split
          · exact gives_some _ _ _ (.list [] (by simp))
          · exact gives_turned _ _ Value.list _ (json_items_ordinary inside rest) fun items each => .list items each
    · by_cases mapping : ∃ rest, text = '\x7b' :: rest
      · obtain ⟨rest, rfl⟩ := mapping
        rw [value_mapping]
        cases levels.inside with
        | error fault => exact gives_none _
        | ok inside =>
            simp only [Except.bind]
            split
            · exact gives_some _ _ _ ((ordinary_map _).mpr ordinary_nothing)
            · exact gives_turned _ _ Value.map _ (json_members_ordinary inside [] rest ordinary_nothing)
                fun entries ordinary => (ordinary_map entries).mpr ordinary
      · rw [value_simple levels text (fun rest found => quote ⟨rest, found⟩) (fun rest found => list ⟨rest, found⟩)
          fun rest found => mapping ⟨rest, found⟩]
        exact simple_ordinary text
termination_by 2 * text.length

theorem json_items_ordinary (levels : Levels) (text : List Char) :
    Gives (fun items => ∀ item ∈ items, Value.Ordinary item) (itemsFront levels text).toOption := by
  have skipped := length_skipSpaces_le text
  rw [items_front]
  refine gives_then _ _ _ fun item rest found => ?_
  have held := json_ordinary levels (skipSpaces text) item rest (by rw [found]; rfl)
  have shorter := front_shorter _ rest item _ found
  dsimp only
  split
  · exact gives_some _ _ _ (List.forall_mem_singleton.mpr held)
  · rename_i next comma
    have fewer := skip_shorter rest next ',' comma
    exact gives_turned _ _ (item :: ·) _ (json_items_ordinary levels next) fun items each => List.forall_mem_cons.mpr ⟨held, each⟩
  · exact gives_none _
termination_by 2 * text.length + 1

theorem json_members_ordinary (levels : Levels) (entries : Entries) (text : List Char) (before : Entries.Ordinary entries) :
    Gives Entries.Ordinary (membersFront levels entries text).toOption := by
  rw [members_front]
  split
  · rename_i inside opened
    have first := skip_shorter text inside '"' opened
    refine gives_then _ _ _ fun key rest found => ?_
    have second := front_shorter inside rest key _ found
    dsimp only
    split
    · rename_i value colon
      have third := skip_shorter rest value ':' colon
      have fourth := length_skipSpaces_le value
      refine gives_then _ _ _ fun held left found => ?_
      have ordinary := json_ordinary levels (skipSpaces value) held left (by rw [found]; rfl)
      have fifth := front_shorter _ left held _ found
      have more_entries := ordinary_put entries (.str key) held before rfl ordinary
      dsimp only
      split
      · exact gives_some _ _ _ more_entries
      · rename_i next comma
        have sixth := skip_shorter left next ',' comma
        exact json_members_ordinary levels _ next more_entries
      · exact gives_none _
    · exact gives_none _
  · exact gives_none _
termination_by 2 * text.length + 1

end

theorem read_ordinary (levels : Levels) (text : List Char) (value : Value) (read : read levels text = .ok value) :
    value.Ordinary := by
  rw [read_front] at read
  cases taken : valueFront levels (skipSpaces text) with
  | error fault =>
      rw [taken] at read
      cases read
  | ok front =>
      rw [taken] at read
      simp only [Except.bind] at read
      split at read
      · cases read
        exact json_ordinary levels (skipSpaces text) front.1 front.2 (by rw [taken]; rfl)
      · cases read

end Json

-- No document holds a date, bytes, or an integer that is too long to be shown.
theorem document_ordinary (text : String) (value : Value) (read : readDocument text = .ok value) :
    value.Ordinary ∧ value.isShowable = true := by
  have ordinary : value.Ordinary := by
    unfold readDocument Document.readText at read
    simp only at read
    split at read
    · split at read
      · cases read
        exact Json.read_ordinary _ _ value ‹_›
      · cases read
      · exact Document.lines_ordinary _ value read
    · exact Document.lines_ordinary _ value read
  exact ⟨ordinary, ordinary_showable value ordinary⟩

end PipelineLint
