import PipelineLint.Proofs.Entries
import PipelineLint.Proofs.Leads
import PipelineLint.Proofs.Replacements

set_option autoImplicit false

namespace PipelineLint.Repair

open Expression

theorem visit_entry_call (levels : List (Nat × Level)) (index column : Nat) (before tail : List Char)
    (behind : CallTail tail) (inside : column ≤ before.length) :
    ∃ next keys form, ∀ name, Text.isIdentifier name = true →
      visitEntry levels index (before ++ (name ++ tail)) column =
        (next, ⟨keys, formStretches form index (before ++ (name ++ tail))⟩) := by
  have dropped (rest : List Char) : (before ++ rest).drop column = before.drop column ++ rest :=
    List.drop_append_of_le_length inside
  obtain ⟨entry, short, same⟩ := plain_entry_call (before.drop column) tail behind
  cases entry with
  | none =>
      refine ⟨⟨levels, none⟩, [], some (.interpolated, column), fun name identifier => ?_⟩
      have plain := same name identifier
      unfold visitEntry
      simp only
      rw [dropped, plain]
      rfl
  | some entry =>
      obtain ⟨key, value⟩ := entry
      have bound := short key value rfl
      rw [List.length_drop] at bound
      refine ⟨entryPlace levels column (String.ofList key) (opensBlock (value ++ ['a'])),
        [entrySite levels index column (String.ofList key)],
        valueForm (opensBlock (value ++ ['a'])) (entryIsExpression levels column (String.ofList key))
          (column + ((before.drop column).length - value.length)), fun name identifier => ?_⟩
      have entry := same name identifier
      have opens : opensBlock (value ++ (name ++ tail)) = opensBlock (value ++ ['a']) := by
        obtain ⟨c, letters, rfl, starts, -⟩ := Text.identifier_cases name identifier
        exact opens_block_before value (letters ++ tail) [] c 'a' starts (by decide)
      have place : column + ((before.drop column ++ (name ++ tail)).length - (value ++ (name ++ tail)).length) =
          column + ((before.drop column).length - value.length) := by
        simp only [List.length_append]
        omega
      have inked : Text.allBlank ((before ++ (name ++ tail)).drop (column + ((before.drop column).length - value.length))) =
          false := by
        obtain ⟨c, letters, rfl, starts, -⟩ := Text.identifier_cases name identifier
        rw [List.drop_append_of_le_length (by rw [List.length_drop]; omega)]
        simp [Text.allBlank, Text.word_not_blank c (Text.isWord_of_isNameStart starts)]
      rw [← dropped] at entry place
      rw [visit_entry_key levels index column _ _ key _ entry place inked, opens]

theorem visit_line_call (levels : List (Nat × Level)) (index : Nat) (before tail : List Char) (behind : CallTail tail) :
    ∃ next keys form, ∀ name, Text.isIdentifier name = true →
      visitLine levels index (before ++ (name ++ tail)) =
        (next, ⟨keys, formStretches form index (before ++ (name ++ tail))⟩) := by
  have lead (name : List Char) (identifier : Text.isIdentifier name = true) :
      leadOf (before ++ (name ++ tail)) = leadOf (before ++ ['a']) := by
    obtain ⟨c, letters, rfl, starts, -⟩ := Text.identifier_cases name identifier
    exact (lead_before before (letters ++ tail) [] c 'a' starts (by decide)).1
  have inside := (lead_before before [] [] 'a' 'a' (by decide) (by decide)).2
  simp only [visit_line_lead]
  cases found : leadOf (before ++ ['a']) with
  | silent => exact ⟨⟨levels, none⟩, [], none, fun name identifier => by rw [lead name identifier, found]; rfl⟩
  | marker => exact ⟨{}, [], none, fun name identifier => by rw [lead name identifier, found]; rfl⟩
  | dash indent =>
      refine ⟨⟨levelsBelow (some indent) levels, none⟩, [], none, fun name identifier => ?_⟩
      rw [lead name identifier, found]
      rfl
  | entry dash column =>
      obtain ⟨next, keys, form, same⟩ :=
        visit_entry_call (levelsBelow dash levels) index column before tail behind (inside dash column found)
      refine ⟨next, keys, form, fun name identifier => ?_⟩
      rw [lead name identifier, found]
      exact same name identifier

theorem visit_call (place : Place) (index : Nat) (before tail : List Char) (behind : CallTail tail) :
    ∃ next keys form, ∀ name, Text.isIdentifier name = true →
      visit place index (before ++ (name ++ tail)) =
        (next, ⟨keys, formStretches form index (before ++ (name ++ tail))⟩) := by
  have outer := visit_line_call place.levels index before tail behind
  unfold visit
  cases place.block with
  | none => exact outer
  | some block =>
      have parts (name : List Char) (identifier : Text.isIdentifier name = true) :
          Text.allBlank (before ++ (name ++ tail)) = false ∧
            indentOf (before ++ (name ++ tail)) = (before.takeWhile (· = ' ')).length := by
        obtain ⟨c, letters, rfl, starts, -⟩ := Text.identifier_cases name identifier
        exact ⟨by simp [Text.allBlank, Text.word_not_blank c (Text.isWord_of_isNameStart starts)],
          indent_before before (letters ++ tail) c starts⟩
      by_cases inside : block.column < (before.takeWhile fun c => decide (c = ' ')).length
      · refine ⟨place, [], some (if block.isExpression then .bare else .interpolated,
          (before.takeWhile fun c => decide (c = ' ')).length), fun name identifier => ?_⟩
        obtain ⟨inked, indent⟩ := parts name identifier
        simp only
        rw [if_neg (by rw [inked]; simp), indent, if_pos inside, bodyStretches, indent]
        cases block.isExpression <;> rfl
      · obtain ⟨next, keys, form, same⟩ := outer
        refine ⟨next, keys, form, fun name identifier => ?_⟩
        obtain ⟨inked, indent⟩ := parts name identifier
        simp only
        rw [if_neg (by rw [inked]; simp), indent, if_neg inside]
        exact same name identifier

theorem visit_entry_form (levels : List (Nat × Level)) (index column : Nat) (line : List Char) :
    ∃ form, (visitEntry levels index line column).2.stretches = formStretches form index line := by
  unfold visitEntry
  simp only
  split
  · exact ⟨some (.interpolated, column), rfl⟩
  · split
    · exact ⟨none, rfl⟩
    · simp only [valueStretches]
      split
      · exact ⟨none, rfl⟩
      · split
        · exact ⟨some (.scalar, _), rfl⟩
        · exact ⟨some (.interpolated, _), rfl⟩

theorem visit_line_form (levels : List (Nat × Level)) (index : Nat) (line : List Char) :
    ∃ form, (visitLine levels index line).2.stretches = formStretches form index line := by
  rw [visit_line_lead]
  cases leadOf line with
  | entry dash column => exact visit_entry_form (levelsBelow dash levels) index column line
  | _ => exact ⟨none, rfl⟩

theorem visit_form (place : Place) (index : Nat) (line : List Char) :
    ∃ form, (visit place index line).2.stretches = formStretches form index line := by
  unfold visit
  split
  · exact visit_line_form place.levels index line
  · rename_i block _
    split
    · exact ⟨none, rfl⟩
    · split
      · refine ⟨some (if block.isExpression then .bare else .interpolated, indentOf line), ?_⟩
        simp only [bodyStretches]
        cases block.isExpression <;> rfl
      · exact visit_line_form place.levels index line

theorem call_at_unique (line : List Char) (call : CallPlace)
    (before name tail other_before other_name other_tail : List Char)
    (around : CallAt line call before name tail) (again : CallAt line call other_before other_name other_tail) :
    before = other_before ∧ name = other_name ∧ tail = other_tail := by
  have whole : before ++ (name ++ tail) = other_before ++ (other_name ++ other_tail) := around.split.symm.trans again.split
  have lengths : before.length = other_before.length := around.start.symm.trans again.start
  have stops := around.stop.symm.trans again.stop
  obtain ⟨rfl, rest⟩ := List.append_inj whole lengths
  obtain ⟨rfl, rfl⟩ := List.append_inj rest (by omega)
  exact ⟨rfl, rfl, rfl⟩

theorem replace_range_call (line : List Char) (call : CallPlace) (other : String) (before name tail : List Char)
    (around : CallAt line call before name tail) :
    replaceRange call.start call.stop other line = before ++ (other.toList ++ tail) := by
  rw [around.start, around.stop, around.split]
  exact replace_range_name before name tail other

theorem visit_renamed (place : Place) (index : Nat) (line : List Char) (kind : CallKind) (front back : List CallPlace)
    (call : CallPlace) (other : String) (callable : IsCallable kind other.toList)
    (found : callsIn kind (visit place index line).2.stretches line = front ++ call :: back) :
    let renamed := replaceRange call.start call.stop other line
    call.line = index ∧ (visit place index renamed).1 = (visit place index line).1 ∧
      (visit place index renamed).2.keys = (visit place index line).2.keys ∧
      Swapped kind (fun kind => callsIn kind (visit place index line).2.stretches line)
        (fun kind => callsIn kind (visit place index renamed).2.stretches renamed) front call other back := by
  intro renamed
  -- The name is found in the line first; what is seen there whatever the name is then gives the form a second time.
  obtain ⟨form, seen⟩ := visit_form place index line
  cases form with
  | none =>
      rw [seen] at found
      simp [formStretches, callsIn] at found
  | some form =>
      obtain ⟨form, start⟩ := form
      rw [seen] at found
      obtain ⟨before, name, tail, around, place_line, -⟩ :=
        stretches_renamed form index start line kind front back call other callable found
      obtain ⟨next, keys, always, same⟩ := visit_call place index before tail around.behind
      have here := same name around.identifier
      have there := same other.toList callable.1
      rw [← around.split] at here
      have result : renamed = before ++ (other.toList ++ tail) := replace_range_call line call other before name tail around
      rw [← result] at there
      rw [here] at seen
      simp only at seen
      refine ⟨place_line, by rw [here, there], by rw [here, there], ?_⟩
      rw [here, there]
      simp only
      rw [← seen] at found
      cases always with
      | none => simp [formStretches, callsIn] at found
      | some form =>
          obtain ⟨form, start⟩ := form
          obtain ⟨other_before, other_name, other_tail, again, -, swapped⟩ :=
            stretches_renamed form index start line kind front back call other callable found
          obtain ⟨rfl, rfl, rfl⟩ := call_at_unique line call _ _ _ _ _ _ around again
          rw [← result] at swapped
          exact swapped

end PipelineLint.Repair
