import PipelineLint.Proofs.KeptBodies

set_option autoImplicit false

namespace PipelineLint.Document

variable {calls : Prop}

-- How a row may change: in its text, or in a line of its body.
inductive RowChanged (calls : Prop) (row : Row) : Row → Prop where
  | text (text : List Char) : Reworded calls row.text text → RowChanged calls row ⟨row.column, text, row.body⟩
  | body (index : Nat) (line next : List Char) : row.body[index]? = some line → Changed calls line next →
      RowChanged calls row ⟨row.column, row.text, row.body.set index next⟩

theorem bare_changed {column : Nat} {text : List Char} {next : Row} (changed : RowChanged calls ⟨column, text, []⟩ next) :
    ∃ other, next = ⟨column, other, []⟩ ∧ Reworded calls text other := by
  cases changed with
  | text other reworded => exact ⟨other, rfl, reworded⟩
  | body index line other stands _ => cases stands

theorem item_row_changed (column : Nat) (text : List Char) (body : List (List Char)) (next : Row)
    (changed : RowChanged calls ⟨column, itemText text, body⟩ next) :
    ∃ other others, RowChanged calls ⟨column + 2, text, body⟩ ⟨column + 2, other, others⟩ ∧ next = ⟨column, itemText other, others⟩ := by
  cases changed with
  | text said reworded =>
      obtain ⟨other, inside, rfl⟩ := item_reworded text said reworded
      exact ⟨other, body, .text other inside, rfl⟩
  | body index line other stands changed => exact ⟨text, _, .body index line other stands changed, rfl⟩

theorem bare_entry_reworded (key : String) (new : List Char) (written : isWrittenKey key.toList = true)
    (reworded : Reworded calls (entryText key []) new) : ∃ name : String, isWrittenKey name.toList = true ∧ new = entryText name [] := by
  rcases entry_reworded key [] new written reworded with renamed | ⟨other, inside, -⟩
  · exact renamed
  · exact absurd rfl (reworded_ink [] other inside).1

theorem block_mark_free (s : String) (mark : List Char) (lines : List (List Char)) (text : BlockText s mark lines) :
    ∀ c ∈ mark, c ≠ ':' ∧ c ≠ '(' ∧ c ≠ ' ' := by
  cases text with
  | lines folds chomp lines blanks _ _ => cases folds <;> cases chomp <;> decide

mutual

theorem block_changed {column : Nat} {value : Value} {rows : List Row} : BlockRows column value rows →
    ∀ front row back next, rows = front ++ row :: back → RowChanged calls row next →
      ∃ other, Alike calls value other ∧ BlockRows column other (front ++ next :: back)
  | .map some_entry written => by
      have entries := entries_changed written
      intro front row back next split changed
      obtain ⟨others, same, rewritten⟩ := entries front row back next split changed
      refine ⟨.map others, .map same, .map ?_ rewritten⟩
      cases same with
      | nil => contradiction
      | cons => simp
  | .list some_item written => by
      have items := items_changed written
      intro front row back next split changed
      obtain ⟨others, same, rewritten⟩ := items front row back next split changed
      refine ⟨.list others, .list same, .list ?_ rewritten⟩
      cases same with
      | nil => contradiction
      | cons => simp

theorem entries_changed {column : Nat} {entries : Entries} {rows : List Row} : EntriesRows column entries rows →
    ∀ front row back next, rows = front ++ row :: back → RowChanged calls row next →
      ∃ others, AlikeEntries calls entries others ∧ EntriesRows column others (front ++ next :: back)
  | .nil => by
      intro front row back next split
      simp at split
  | @EntriesRows.cons _ key value entries rows more name entry later => by
      have here := entry_rows_changed entry name
      have onward := entries_changed later
      intro front row back next split changed
      rcases append_split rows more front back row split with ⟨others, rfl, behind⟩ | ⟨others, ahead, rfl⟩
      · obtain ⟨rest, same, rewritten⟩ := onward others row back next behind changed
        refine ⟨(.str key, value) :: rest, .cons (fun _ _ => ⟨key, rfl⟩) (alike_refl value) same, ?_⟩
        rw [List.append_assoc]
        exact .cons rows _ name entry rewritten
      · obtain ⟨name, other, written, same, rewritten⟩ := here front row others next ahead changed
        refine ⟨(.str name, other) :: entries, .cons (fun _ _ => ⟨name, rfl⟩) same (alike_entries_refl entries), ?_⟩
        rw [← List.cons_append, ← List.append_assoc]
        exact .cons _ more written rewritten later

theorem entry_rows_changed {column : Nat} {key : String} {value : Value} {rows : List Row} :
    EntryRows column key value rows → isWrittenKey key.toList = true →
      ∀ front row back next, rows = front ++ row :: back → RowChanged calls row next →
        ∃ name other, isWrittenKey name.toList = true ∧ Alike calls value other ∧
          EntryRows column name other (front ++ next :: back)
  | .inline said inline => by
      intro written front row back next split changed
      obtain ⟨rfl, rfl, rfl⟩ : front = [] ∧ row = ⟨column, entryText key said, []⟩ ∧ back = [] := by
        cases front <;> simp_all
      obtain ⟨text, rfl, reworded⟩ := bare_changed changed
      rcases entry_reworded key said text written reworded with ⟨name, named, rfl⟩ | ⟨other, said_other, rfl⟩
      · exact ⟨name, value, named, alike_refl value, .inline said inline⟩
      · obtain ⟨result, shown, same⟩ := inline_reworded value said other inline said_other
        exact ⟨key, result, written, same, .inline other shown⟩
  | .text mark lines deeper deep text => by
      intro written front row back next split changed
      obtain ⟨rfl, rfl, rfl⟩ : front = [] ∧ row = ⟨column, entryText key mark, lines.map (indented deeper)⟩ ∧ back = [] := by
        cases front <;> simp_all
      cases changed with
      | text said reworded =>
          rcases entry_reworded key mark said written reworded with ⟨name, named, rfl⟩ | ⟨other, said_other, rfl⟩
          · exact ⟨name, _, named, alike_refl _, .text mark lines deeper deep text⟩
          · exact absurd said_other (unworded mark other (block_mark_free _ mark lines text))
      | body index line said stands changed =>
          obtain ⟨t, others, again, same, rewritten⟩ := block_text_changed _ mark lines text deeper index line said stands changed
          refine ⟨key, .str t, written, same, ?_⟩
          rw [rewritten]
          exact .text mark others deeper deep again
  | .nested deeper below deep inner => by
      have blocks := block_changed inner
      intro written front row back next split changed
      cases front with
      | nil =>
          obtain ⟨rfl, rfl⟩ := List.cons.inj split
          obtain ⟨text, rfl, reworded⟩ := bare_changed changed
          obtain ⟨name, named, rfl⟩ := bare_entry_reworded key text written reworded
          exact ⟨name, value, named, alike_refl value, .nested deeper below deep inner⟩
      | cons first front =>
          obtain ⟨rfl, rfl⟩ := List.cons.inj split
          obtain ⟨other, same, rewritten⟩ := blocks front row back next rfl changed
          exact ⟨key, other, written, same, .nested deeper _ deep rewritten⟩
  | .level below some_item inner => by
      have lists := items_changed inner
      intro written front row back next split changed
      cases front with
      | nil =>
          obtain ⟨rfl, rfl⟩ := List.cons.inj split
          obtain ⟨text, rfl, reworded⟩ := bare_changed changed
          obtain ⟨name, named, rfl⟩ := bare_entry_reworded key text written reworded
          exact ⟨name, _, named, alike_refl _, .level below some_item inner⟩
      | cons first front =>
          obtain ⟨rfl, rfl⟩ := List.cons.inj split
          obtain ⟨others, same, rewritten⟩ := lists front row back next rfl changed
          refine ⟨key, .list others, written, .list same, .level _ ?_ rewritten⟩
          cases same with
          | nil => contradiction
          | cons => simp

theorem items_changed {column : Nat} {items : List Value} {rows : List Row} : ItemsRows column items rows →
    ∀ front row back next, rows = front ++ row :: back → RowChanged calls row next →
      ∃ others, AlikeItems calls items others ∧ ItemsRows column others (front ++ next :: back)
  | .nil => by
      intro front row back next split
      simp at split
  | @ItemsRows.cons _ value items rows more item later => by
      have here := item_rows_changed item
      have onward := items_changed later
      intro front row back next split changed
      rcases append_split rows more front back row split with ⟨others, rfl, behind⟩ | ⟨others, ahead, rfl⟩
      · obtain ⟨rest, same, rewritten⟩ := onward others row back next behind changed
        refine ⟨value :: rest, .cons (alike_refl value) same, ?_⟩
        rw [List.append_assoc]
        exact .cons rows _ item rewritten
      · obtain ⟨other, same, rewritten⟩ := here front row others next ahead changed
        refine ⟨other :: items, .cons same (alike_items_refl items), ?_⟩
        rw [← List.cons_append, ← List.append_assoc]
        exact .cons _ more rewritten later

theorem item_rows_changed {column : Nat} {value : Value} {rows : List Row} : ItemRows column value rows →
    ∀ front row back next, rows = front ++ row :: back → RowChanged calls row next →
      ∃ other, Alike calls value other ∧ ItemRows column other (front ++ next :: back)
  | .inline said inline => by
      intro front row back next split changed
      obtain ⟨rfl, rfl, rfl⟩ : front = [] ∧ row = ⟨column, itemText said, []⟩ ∧ back = [] := by
        cases front <;> simp_all
      obtain ⟨text, rfl, reworded⟩ := bare_changed changed
      obtain ⟨other, said_other, rfl⟩ := item_reworded said text reworded
      obtain ⟨result, shown, same⟩ := inline_reworded value said other inline said_other
      exact ⟨result, same, .inline other shown⟩
  | .inPlace said body below inner => by
      have blocks := block_changed inner
      intro front row back next split changed
      cases front with
      | nil =>
          obtain ⟨rfl, rfl⟩ := List.cons.inj split
          obtain ⟨other, others, inside, rfl⟩ := item_row_changed column said body next changed
          obtain ⟨result, same, rewritten⟩ := blocks [] _ below _ rfl inside
          exact ⟨result, same, .inPlace other others below rewritten⟩
      | cons first front =>
          obtain ⟨rfl, rfl⟩ := List.cons.inj split
          obtain ⟨result, same, rewritten⟩ := blocks (⟨column + 2, said, body⟩ :: front) row back next rfl changed
          exact ⟨result, same, .inPlace said body _ rewritten⟩

end

end PipelineLint.Document
