import Mathlib.Order.Bounds.Defs
import PipelineLint.Name.Distance

set_option autoImplicit false

namespace PipelineLint.Name

inductive Edit : List Char → List Char → Prop where
  | insert (front : List Char) (c : Char) (back : List Char) : Edit (front ++ back) (front ++ c :: back)
  | delete (front : List Char) (c : Char) (back : List Char) : Edit (front ++ c :: back) (front ++ back)
  | substitute (front : List Char) (c d : Char) (back : List Char) : Edit (front ++ c :: back) (front ++ d :: back)

-- That a number of edits, one after the other and each anywhere in the text, turn one text into another.
inductive Edited : Nat → List Char → List Char → Prop where
  | same (text : List Char) : Edited 0 text text
  | next {count : Nat} {first second last : List Char} (edit : Edit first second) (rest : Edited count second last) :
      Edited (count + 1) first last

theorem Edit.cons (x : Char) {first second : List Char} (edit : Edit first second) : Edit (x :: first) (x :: second) := by
  cases edit with
  | insert front c back => exact .insert (x :: front) c back
  | delete front c back => exact .delete (x :: front) c back
  | substitute front c d back => exact .substitute (x :: front) c d back

theorem Edit.reverse {first second : List Char} (edit : Edit first second) : Edit first.reverse second.reverse := by
  cases edit with
  | insert front c back => simpa using Edit.insert back.reverse c front.reverse
  | delete front c back => simpa using Edit.delete back.reverse c front.reverse
  | substitute front c d back => simpa using Edit.substitute back.reverse c d front.reverse

theorem Edited.cons (x : Char) {count : Nat} {first last : List Char} (edited : Edited count first last) :
    Edited count (x :: first) (x :: last) := by
  induction edited with
  | same text => exact .same (x :: text)
  | next edit _ ih => exact .next (edit.cons x) ih

theorem Edited.reverse {count : Nat} {first last : List Char} (edited : Edited count first last) :
    Edited count first.reverse last.reverse := by
  induction edited with
  | same text => exact .same text.reverse
  | next edit _ ih => exact .next edit.reverse ih

theorem edited_emptied (text : List Char) : Edited text.length text [] := by
  induction text with
  | nil => exact .same []
  | cons c rest ih => exact .next (.delete [] c rest) ih

theorem edited_filled (text : List Char) : Edited text.length [] text := by
  simpa using go text []
where
  go (text front : List Char) : Edited text.length front (front ++ text) := by
    induction text generalizing front with
    | nil => simpa using Edited.same front
    | cons c rest ih =>
        refine .next ?_ (by simpa using ih (front ++ [c]))
        simpa using Edit.insert front c []

-- The least number of edits, by the first characters of both texts.
def leastEdits : List Char → List Char → Nat
  | [], other => other.length
  | text, [] => text.length
  | c :: text, d :: other =>
      min (min (leastEdits text (d :: other) + 1) (leastEdits (c :: text) other + 1))
        (leastEdits text other + if c = d then 0 else 1)
termination_by text other => text.length + other.length

@[simp] theorem least_edits_nil (other : List Char) : leastEdits [] other = other.length := by
  rw [leastEdits]

@[simp] theorem least_edits_to_nil (text : List Char) : leastEdits text [] = text.length := by
  cases text <;> simp [leastEdits]

theorem least_edits_cons (c d : Char) (text other : List Char) : leastEdits (c :: text) (d :: other) =
    min (min (leastEdits text (d :: other) + 1) (leastEdits (c :: text) other + 1))
      (leastEdits text other + if c = d then 0 else 1) := by
  rw [leastEdits]

theorem least_edits_same (text : List Char) : leastEdits text text = 0 := by
  induction text with
  | nil => simp
  | cons c rest ih => simp [least_edits_cons, ih]

theorem Edited.least {first second : Nat} {text other : List Char} (one : Edited first text other) (two : Edited second text other) :
    Edited (min first second) text other := by
  rcases Nat.le_total first second with below | above
  · rwa [Nat.min_eq_left below]
  · rwa [Nat.min_eq_right above]

theorem least_edits_made (text other : List Char) : Edited (leastEdits text other) text other := by
  fun_induction leastEdits text other with
  | case1 other => exact edited_filled other
  | case2 text => exact edited_emptied text
  | case3 c text d other without with_next both =>
      have deleted : Edited (leastEdits text (d :: other) + 1) (c :: text) (d :: other) := .next (.delete [] c text) without
      have inserted : Edited (leastEdits (c :: text) other + 1) (c :: text) (d :: other) :=
        .next (.insert [] d (c :: text)) (with_next.cons d)
      have kept : Edited (leastEdits text other + if c = d then 0 else 1) (c :: text) (d :: other) := by
        by_cases same : c = d
        · subst same
          simpa using both.cons c
        · rw [if_neg same]
          exact .next (.substitute [] c d text) (both.cons d)
      exact (deleted.least inserted).least kept

theorem least_edits_more (text other : List Char) (d : Char) : leastEdits text (d :: other) ≤ leastEdits text other + 1 := by
  cases text with
  | nil => simp
  | cons c rest =>
      rw [least_edits_cons]
      omega

theorem least_edits_insert (c : Char) (text other : List Char) : leastEdits text other ≤ leastEdits (c :: text) other + 1 := by
  induction other with
  | nil =>
      simp
      omega
  | cons d other ih =>
      have more := least_edits_more text other d
      rw [least_edits_cons]
      omega

theorem least_edits_delete (c : Char) (text other : List Char) : leastEdits (c :: text) other ≤ leastEdits text other + 1 := by
  cases other with
  | nil => simp
  | cons d other =>
      rw [least_edits_cons]
      omega

theorem least_edits_substitute (c e : Char) (text other : List Char) :
    leastEdits (c :: text) other ≤ leastEdits (e :: text) other + 1 := by
  induction other with
  | nil => simp
  | cons d other ih =>
      rw [least_edits_cons, least_edits_cons]
      split <;> split <;> omega

theorem least_edits_front (c : Char) (first second other : List Char)
    (near : ∀ other, leastEdits first other ≤ leastEdits second other + 1) :
    leastEdits (c :: first) other ≤ leastEdits (c :: second) other + 1 := by
  induction other with
  | nil => simpa using near []
  | cons d other ih =>
      have whole := near (d :: other)
      have behind := near other
      rw [least_edits_cons, least_edits_cons]
      omega

theorem least_edits_fronts (front first second other : List Char)
    (near : ∀ other, leastEdits first other ≤ leastEdits second other + 1) :
    leastEdits (front ++ first) other ≤ leastEdits (front ++ second) other + 1 := by
  induction front generalizing other with
  | nil => exact near other
  | cons c front ih => exact least_edits_front c (front ++ first) (front ++ second) other ih

theorem least_edits_edit (first second other : List Char) (edit : Edit first second) :
    leastEdits first other ≤ leastEdits second other + 1 := by
  cases edit with
  | insert front c back => exact least_edits_fronts front _ _ other (least_edits_insert c back)
  | delete front c back => exact least_edits_fronts front _ _ other (least_edits_delete c back)
  | substitute front c d back => exact least_edits_fronts front _ _ other (least_edits_substitute c d back)

theorem least_edits_below (count : Nat) (text other : List Char) (edited : Edited count text other) :
    leastEdits text other ≤ count := by
  induction edited with
  | same text => exact Nat.le_of_eq (least_edits_same text)
  | @next _ first second last edit _ ih =>
      have step := least_edits_edit first second last edit
      omega

theorem least_edits_least (text other : List Char) : IsLeast {count | Edited count text other} (leastEdits text other) :=
  ⟨least_edits_made text other, fun count edited => least_edits_below count text other edited⟩

theorem least_edits_reverse_le (text other : List Char) : leastEdits text.reverse other.reverse ≤ leastEdits text other :=
  least_edits_below _ _ _ (least_edits_made text other).reverse

theorem least_edits_reverse (text other : List Char) : leastEdits text.reverse other.reverse = leastEdits text other := by
  apply Nat.le_antisymm (least_edits_reverse_le text other)
  simpa using least_edits_reverse_le text.reverse other.reverse

theorem least_edits_comm (text other : List Char) : leastEdits text other = leastEdits other text := by
  fun_induction leastEdits text other with
  | case1 other => simp
  | case2 text => simp
  | case3 c text d other without with_next both =>
      rw [least_edits_cons d c, without, with_next, both]
      simp only [eq_comm (a := c)]
      omega

theorem length_le_least_edits (text other : List Char) : text.length ≤ other.length + leastEdits text other := by
  fun_induction leastEdits text other with
  | case1 other => simp
  | case2 text => simp
  | case3 c text d other without with_next both =>
      simp only [List.length_cons] at without with_next both ⊢
      omega

-- The cells of a row behind its first one. The first text up to the row stands backwards in `text`, the other one up to the
-- first of the cells in `done`: the last characters read are the ones that the recursion of `leastEdits` looks at.
def cellsBehind (text : List Char) : (done : List Char) → List Char → List Nat
  | _, [] => []
  | done, d :: other => leastEdits text (d :: done) :: cellsBehind text (d :: done) other

def rowOf (text other : List Char) : List Nat :=
  leastEdits text [] :: cellsBehind text [] other

theorem row_after_cells (c : Char) (text done other : List Char) :
    rowAfter c (leastEdits (c :: text) done) (leastEdits text done) (cellsBehind text done other) other =
      cellsBehind (c :: text) done other := by
  induction other generalizing done with
  | nil => rfl
  | cons d other ih =>
      simp only [cellsBehind, rowAfter]
      rw [← least_edits_cons, ih]

theorem next_row (c : Char) (text other : List Char) : nextRow c (rowOf text other) other = rowOf (c :: text) other := by
  have first : leastEdits text [] + 1 = leastEdits (c :: text) [] := by simp
  simp only [rowOf, nextRow, first, row_after_cells]

theorem cells_first (done other : List Char) :
    cellsBehind [] done other = (List.range other.length).map (· + (done.length + 1)) := by
  induction other generalizing done with
  | nil => rfl
  | cons d other ih =>
      simp only [cellsBehind, ih, least_edits_nil, List.length_cons, List.range_succ_eq_map, List.map_cons, List.map_map]
      refine List.cons_eq_cons.mpr ⟨by omega, List.map_congr_left fun count _ => ?_⟩
      simp only [Function.comp_apply]
      omega

theorem row_first (other : List Char) : List.range (other.length + 1) = rowOf [] other := by
  rw [rowOf, cells_first, List.range_succ_eq_map]
  simp

theorem cells_last (text done other : List Char) :
    (leastEdits text done :: cellsBehind text done other).getLast? = some (leastEdits text (other.reverse ++ done)) := by
  induction other generalizing done with
  | nil => rfl
  | cons d other ih =>
      rw [cellsBehind, List.getLast?_cons_cons, ih]
      simp

theorem row_last (text other : List Char) : (rowOf text other).getLast? = some (leastEdits text other.reverse) := by
  rw [rowOf, cells_last, List.append_nil]

theorem cells_above (bound : Int) (c : Char) (text done other : List Char) (corner : bound < leastEdits text done)
    (left : bound < leastEdits (c :: text) done) (above : ∀ cell ∈ cellsBehind text done other, bound < (cell : Int)) :
    ∀ cell ∈ cellsBehind (c :: text) done other, bound < (cell : Int) := by
  induction other generalizing done with
  | nil => exact above
  | cons d other ih =>
      obtain ⟨up, others⟩ := List.forall_mem_cons.mp above
      have here : bound < leastEdits (c :: text) (d :: done) := by
        rw [least_edits_cons]
        omega
      exact List.forall_mem_cons.mpr ⟨here, ih (d :: done) up here others⟩

-- A row has no cell below all cells of the row above it, so once a row is above the bound all later ones are.
theorem row_above (bound : Int) (c : Char) (text other : List Char) (above : ∀ cell ∈ rowOf text other, bound < (cell : Int)) :
    ∀ cell ∈ rowOf (c :: text) other, bound < (cell : Int) := by
  obtain ⟨first, others⟩ := List.forall_mem_cons.mp above
  have next : bound < leastEdits (c :: text) [] := by
    simp at first ⊢
    omega
  exact List.forall_mem_cons.mpr ⟨next, cells_above bound c text [] other first next others⟩

theorem rows_above (bound : Int) (rest text other : List Char) (above : ∀ cell ∈ rowOf text other, bound < (cell : Int)) :
    ∀ cell ∈ rowOf (rest.reverse ++ text) other, bound < (cell : Int) := by
  induction rest generalizing text with
  | nil => exact above
  | cons c rest ih => simpa using ih (c :: text) (row_above bound c text other above)

theorem row_not_within (bound : Int) (row : List Nat) (out : rowWithin (some bound) row = false) :
    ∀ cell ∈ row, bound < (cell : Int) := by
  simpa [rowWithin] using out

theorem last_row (bound : Option Int) (rest text other : List Char) :
    lastRow? bound other (rowOf text other) rest = some (rowOf (rest.reverse ++ text) other) ∨
      lastRow? bound other (rowOf text other) rest = none ∧
        ∃ most, bound = some most ∧ ∀ cell ∈ rowOf (rest.reverse ++ text) other, most < (cell : Int) := by
  induction rest generalizing text with
  | nil => exact .inl rfl
  | cons c rest ih =>
      simp only [lastRow?, next_row]
      by_cases within : rowWithin bound (rowOf (c :: text) other) = true
      · simpa [within] using ih (c :: text)
      · cases bound with
        | none => simp [rowWithin] at within
        | some most =>
            have above := row_not_within most _ (Bool.not_eq_true _ ▸ within)
            exact .inr ⟨if_neg within, most, rfl, by simpa using rows_above most rest (c :: text) other above⟩

-- The distance is the least number of edits, or the bound plus one where that number is above the bound.
def IsCutOff (bound : Option Int) (least : Nat) (found : Int) : Prop :=
  found = least ∨ ∃ most : Int, bound = some most ∧ most < least ∧ found = most + 1

theorem distance_from_cut_off (bound : Option Int) (long short : List Char) :
    IsCutOff bound (leastEdits long short) (distanceFrom bound long short) := by
  have longer := length_le_least_edits long short
  have last (most : Int) (above : ∀ cell ∈ rowOf long.reverse short, most < (cell : Int)) : most < leastEdits long short := by
    have shown := above _ (List.mem_of_getLast? (row_last long.reverse short))
    rwa [least_edits_reverse] at shown
  unfold distanceFrom
  by_cases apart : (bound.any fun most => most < (long.length : Int) - (short.length : Int)) = true
  · rw [if_pos apart]
    obtain ⟨most, rfl, less⟩ := (Option.any_eq_true _ _).mp apart
    refine .inr ⟨most, rfl, ?_, rfl⟩
    simp only [decide_eq_true_eq] at less
    omega
  · rw [if_neg apart, row_first]
    rcases last_row bound long [] short with all | ⟨stopped, most, rfl, above⟩
    · rw [all, List.append_nil]
      simp only [row_last, Option.getD_some, least_edits_reverse]
      exact .inl rfl
    · rw [stopped]
      rw [List.append_nil] at above
      exact .inr ⟨most, rfl, last most above, rfl⟩

theorem distance_cut_off (bound : Option Int) (text other : List Char) :
    IsCutOff bound (leastEdits text other) (distance bound text other) := by
  unfold distance
  by_cases same : text = other
  · subst same
    rw [if_pos rfl, least_edits_same]
    exact .inl rfl
  · rw [if_neg same]
    by_cases shorter : text.length < other.length
    · rw [if_pos shorter, least_edits_comm]
      exact distance_from_cut_off bound other text
    · rw [if_neg shorter]
      exact distance_from_cut_off bound text other

theorem distance_unbounded (text other : List Char) : distance none text other = leastEdits text other := by
  rcases distance_cut_off none text other with whole | ⟨_, unbounded, _⟩
  · exact whole
  · cases unbounded

theorem distance_bounded (most : Int) (text other : List Char) : distance (some most) text other = leastEdits text other ∨
    most < leastEdits text other ∧ distance (some most) text other = most + 1 := by
  rcases distance_cut_off (some most) text other with whole | ⟨bound, same, above, cut⟩
  · exact .inl whole
  · obtain rfl := Option.some.inj same
    exact .inr ⟨above, cut⟩

theorem distance_within (most : Int) (text other : List Char) (within : (leastEdits text other : Int) ≤ most) :
    distance (some most) text other = leastEdits text other := by
  rcases distance_bounded most text other with whole | ⟨above, _⟩
  · exact whole
  · omega

theorem distance_within_iff (most : Int) (text other : List Char) :
    distance (some most) text other ≤ most ↔ (leastEdits text other : Int) ≤ most := by
  rcases distance_bounded most text other with whole | ⟨above, cut⟩
  · rw [whole]
  · omega

theorem distance_least (text other : List Char) : ∃ least : Nat, IsLeast {count | Edited count text other} least ∧
    distance none text other = least ∧ ∀ bound : Int,
      (distance (some bound) text other ≤ bound ↔ (least : Int) ≤ bound) ∧
      ((least : Int) ≤ bound → distance (some bound) text other = least) :=
  ⟨leastEdits text other, least_edits_least text other, distance_unbounded text other, fun bound =>
    ⟨distance_within_iff bound text other, distance_within bound text other⟩⟩

end PipelineLint.Name
