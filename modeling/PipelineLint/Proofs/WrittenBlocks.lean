import PipelineLint.Proofs.WrittenBodies

set_option autoImplicit false

namespace PipelineLint.Document

/-! ## What follows below -/

def StartsName (text : List Char) : Prop :=
  ∃ first rest, text = first :: rest ∧ Text.isNameStart first = true

def Below (column : Nat) (rows : List Row) : Prop :=
  ∀ row ∈ rows.head?, row.column < column

def Beside (column : Nat) (rows : List Row) : Prop :=
  ∀ row ∈ rows.head?, row.column < column ∨ row.column = column ∧ StartsName row.text

theorem beside_shallow (column : Nat) (rows : List Row) (beside : Beside column rows) :
    ∀ row ∈ rows.head?, row.column ≤ column := fun row member => by
  rcases beside row member with less | ⟨level, -⟩ <;> omega

theorem below_beside (column : Nat) (rows : List Row) (below : Below column rows) : Beside column rows :=
  fun row member => .inl (below row member)

theorem name_no_item (row : Row) (line : Line) (starts : StartsName row.text) (held : Holds row line) :
    isItemText line.content = false := by
  obtain ⟨trail, -, content⟩ := holds_content row line held
  obtain ⟨first, rest, split, name⟩ := starts
  have no_dash := Text.name_start_ne first '-' name (by decide)
  rw [content, split]
  unfold isItemText
  split <;> simp_all

theorem name_no_dash (row : Row) (line : Line) (starts : StartsName row.text) (held : Holds row line) :
    line.afterDash? = none := by
  rw [Line.afterDash?, if_neg (by simp [name_no_item row line starts held])]

theorem settled_end {lines : List Line} (place : After lines) (shown : Shown [] place.1.lines) :
    ∃ last, place.settled.1 = ⟨last, []⟩ :=
  settle_end place.1.number place.1.lines shown

theorem settled_row {lines : List Line} (place : After lines) (row : Row) (others : List Row)
    (shown : Shown (row :: others) place.1.lines) :
    ∃ next line more, place.settled.1 = ⟨next, line :: more⟩ ∧ Holds row line ∧ Behind row.body others more :=
  settle_row place.1.number row others place.1.lines shown

theorem settled_holds {lines : List Line} (place : After lines) (rows : List Row) (next : Nat) (line : Line)
    (more : List Line) (shown : Shown rows place.1.lines) (found : place.settled.1 = ⟨next, line :: more⟩) :
    ∃ row others, rows = row :: others ∧ Holds row line := by
  cases rows with
  | nil =>
      obtain ⟨last, ends⟩ := settled_end place shown
      rw [ends] at found
      cases found
  | cons row others =>
      obtain ⟨_, _, _, settled, held, -⟩ := settled_row place row others shown
      rw [settled] at found
      cases found
      exact ⟨row, others, rfl, held⟩

theorem settled_shown {lines : List Line} (place : After lines) (rows : List Row) (shown : Shown rows place.1.lines) :
    Shown rows place.settled.1.lines :=
  settle_shown place.1.number rows place.1.lines shown

/-! ## Steps of a mapping -/

section Mapping

variable {indent number : Nat} {entries : Entries} {line : Line} {rest : List Line} {head : EntryHead} {key : String}
  {value : Value}

theorem read_mapping_last (rows : List Row) (entry : entryHead? line.content = some head) (named : head.key.read = .ok key)
    (read : Reads (readValue head.value line.indent ⟨number + 1, rest⟩) value rows) (ends : Below indent rows) :
    Reads (readMapping indent entries number line rest) (.map (entries.put (.str key) value)) rows := by
  obtain ⟨place, read, shown⟩ := read
  refine ⟨place.settled, ?_, settled_shown place rows shown⟩
  rw [readMapping, entry]
  simp only [named, read]
  split
  · rfl
  · rename_i nextNumber nextLine more next
    obtain ⟨row, others, rfl, held⟩ := settled_holds place rows nextNumber nextLine more shown next
    have column : nextLine.indent < indent := held.column ▸ ends row rfl
    rw [if_pos column]

theorem read_mapping_next (row : Row) (others tail : List Row) (result : Value)
    (entry : entryHead? line.content = some head) (named : head.key.read = .ok key)
    (read : Reads (readValue head.value line.indent ⟨number + 1, rest⟩) value (row :: others))
    (column : row.column = indent) (starts : StartsName row.text)
    (onward : ∀ nextNumber nextLine more, Holds row nextLine → Behind row.body others more →
      Reads (readMapping indent (entries.put (.str key) value) nextNumber nextLine more) result tail) :
    Reads (readMapping indent entries number line rest) result tail := by
  obtain ⟨place, read, shown⟩ := read
  obtain ⟨nextNumber, nextLine, more, settled, held, left⟩ := settled_row place row others shown
  obtain ⟨⟨final, suffix⟩, onward, remain⟩ := onward nextNumber nextLine more held left
  have level : ¬ nextLine.indent < indent := by
    rw [held.column, column]
    exact Nat.lt_irrefl indent
  have no_item := name_no_item row nextLine starts held
  unfold Reads
  rw [readMapping, entry]
  simp only [named, read]
  split
  · rename_i next
    rw [settled] at next
    cases next
  · rename_i next
    rw [settled] at next
    cases next
    simp only [level, no_item, onward, if_false, Bool.false_eq_true]
    exact ⟨_, rfl, remain⟩

end Mapping

/-! ## Steps of a list -/

section Sequence

variable {indent dash number : Nat} {items : List Value} {item : Line} {rest : List Line} {value : Value}

theorem read_sequence_last (rows : List Row) (read : Reads (readItem dash item number rest) value rows)
    (ends : Beside indent rows) :
    Reads (readSequence indent items dash item number rest) (.list (items ++ [value])) rows := by
  obtain ⟨place, read, shown⟩ := read
  refine ⟨place.settled, ?_, settled_shown place rows shown⟩
  rw [readSequence, read]
  simp only
  split
  · rfl
  · rename_i nextNumber nextLine more next
    obtain ⟨row, others, rfl, held⟩ := settled_holds place rows nextNumber nextLine more shown next
    rcases ends row rfl with less | ⟨same, starts⟩
    · rw [if_pos (held.column ▸ less)]
    · have level : nextLine.indent = indent := held.column.trans same
      rw [if_neg (by omega)]
      split
      · rw [if_pos level]
      · rename_i found
        rw [name_no_dash row nextLine starts held] at found
        cases found

theorem read_sequence_next (row : Row) (others tail : List Row) (result : Value)
    (read : Reads (readItem dash item number rest) value (row :: others)) (column : row.column = indent)
    (onward : ∀ nextNumber nextLine more, Holds row nextLine → Behind row.body others more → ∃ nextItem,
      nextLine.afterDash? = some nextItem ∧
        Reads (readSequence indent (items ++ [value]) indent nextItem nextNumber more) result tail) :
    Reads (readSequence indent items dash item number rest) result tail := by
  obtain ⟨place, read, shown⟩ := read
  obtain ⟨nextNumber, nextLine, more, settled, held, left⟩ := settled_row place row others shown
  obtain ⟨nextItem, behind, ⟨final, suffix⟩, onward, remain⟩ := onward nextNumber nextLine more held left
  have level : nextLine.indent = indent := held.column.trans column
  unfold Reads
  rw [readSequence, read]
  simp only
  split
  · rename_i next
    rw [settled] at next
    cases next
  · rename_i next
    rw [settled] at next
    cases next
    rw [if_neg (by omega)]
    split
    · rename_i found
      rw [behind] at found
      cases found
    · rename_i found
      rw [behind] at found
      cases found
      rw [level, onward]
      exact ⟨_, rfl, remain⟩

theorem read_item_null (rows : List Row) (nothing : Text.trim (stripComment item.body) = []) (shown : Shown rows rest)
    (shallow : ∀ row ∈ rows.head?, row.column ≤ dash) : Reads (readItem dash item number rest) .null rows := by
  refine ⟨After.settled ⟨⟨number + 1, rest⟩, List.suffix_refl rest⟩, ?_, settle_shown (number + 1) rows rest shown⟩
  rw [readItem, if_pos nothing]
  simp only
  split
  · rfl
  · rename_i nextNumber nextLine more next
    obtain ⟨row, others, rfl, held⟩ := settled_holds _ rows nextNumber nextLine more shown next
    have column : nextLine.indent ≤ dash := held.column ▸ shallow row rfl
    rw [if_neg (by omega)]

theorem read_item_block (tail : List Row) (ink : Text.trim (stripComment item.body) ≠ [])
    (starts : (isItemText item.body || (entryHead? (stripComment item.body)).isSome) = true)
    (read : Reads (readBlock number item rest) value tail) : Reads (readItem dash item number rest) value tail := by
  rw [readItem, if_neg ink, if_pos starts]
  exact read

theorem read_item_value (tail : List Row) (ink : Text.trim (stripComment item.body) ≠ [])
    (no_item : isItemText item.body = false) (no_entry : entryHead? (stripComment item.body) = none)
    (read : Reads (readValue item.body dash ⟨number + 1, rest⟩) value tail) :
    Reads (readItem dash item number rest) value tail := by
  rw [readItem, if_neg ink, if_neg (by simp [no_item, no_entry])]
  exact read

end Sequence

/-! ## Steps of a value -/

section OfValue

variable {parent : Nat} {said : List Char} {cursor : Cursor}

theorem read_value_null (rows : List Row) (nothing : Text.trim (stripComment said) = []) (shown : Shown rows cursor.lines)
    (ends : Beside parent rows) : Reads (readValue said parent cursor) .null rows := by
  refine ⟨After.settled ⟨cursor, List.suffix_refl _⟩, ?_, settle_shown cursor.number rows cursor.lines shown⟩
  rw [readValue, if_pos nothing]
  simp only
  split
  · rfl
  · rename_i nextNumber nextLine more next
    obtain ⟨row, others, rfl, held⟩ := settled_holds _ rows nextNumber nextLine more shown next
    rcases ends row rfl with less | ⟨same, starts⟩
    · have column : nextLine.indent < parent := held.column ▸ less
      rw [if_neg (by omega), if_neg (by omega)]
    · have column : nextLine.indent = parent := held.column.trans same
      rw [if_neg (by omega), if_pos column]
      split
      · rfl
      · rename_i found
        rw [name_no_dash row nextLine starts held] at found
        cases found

theorem read_value_below (row : Row) (others tail : List Row) (value : Value) (nothing : Text.trim (stripComment said) = [])
    (shown : Shown (row :: others) cursor.lines) (deeper : parent < row.column)
    (below : ∀ number line rest, Holds row line → Behind row.body others rest → Reads (readBlock number line rest) value tail) :
    Reads (readValue said parent cursor) value tail := by
  obtain ⟨number, line, rest, settled, held, left⟩ := settled_row ⟨cursor, List.suffix_refl _⟩ row others shown
  obtain ⟨⟨final, suffix⟩, read, remain⟩ := below number line rest held left
  have column : parent < line.indent := held.column ▸ deeper
  unfold Reads
  rw [readValue, if_pos nothing]
  simp only
  split
  · rename_i next
    rw [settled] at next
    cases next
  · rename_i next
    rw [settled] at next
    cases next
    rw [if_pos column, read]
    exact ⟨_, rfl, remain⟩

theorem read_value_level (row : Row) (others tail : List Row) (value : Value) (nothing : Text.trim (stripComment said) = [])
    (shown : Shown (row :: others) cursor.lines) (same : row.column = parent)
    (level : ∀ number line rest, Holds row line → Behind row.body others rest → ∃ item, line.afterDash? = some item ∧
      Reads (readSequence parent [] parent item number rest) value tail) :
    Reads (readValue said parent cursor) value tail := by
  obtain ⟨number, line, rest, settled, held, left⟩ := settled_row ⟨cursor, List.suffix_refl _⟩ row others shown
  obtain ⟨item, behind, ⟨final, suffix⟩, read, remain⟩ := level number line rest held left
  have column : line.indent = parent := held.column.trans same
  unfold Reads
  rw [readValue, if_pos nothing]
  simp only
  split
  · rename_i next
    rw [settled] at next
    cases next
  · rename_i next
    rw [settled] at next
    cases next
    rw [if_neg (by omega), if_pos column]
    split
    · rename_i found
      rw [behind] at found
      cases found
    · rename_i found
      rw [behind] at found
      cases found
      rw [column, read]
      exact ⟨_, rfl, remain⟩

end OfValue

/-! ## Behind a dash -/

theorem item_text_item (text trail : List Char) (behind : Trail trail) : isItemText (itemText text ++ trail) = true := by
  rcases spaced_cases text with ⟨-, nothing⟩ | ⟨-, some_text⟩
  · rw [itemText, nothing]
    rcases trail_cases trail behind with rfl | ⟨rest, rfl⟩ <;> rfl
  · rw [itemText, some_text]
    rfl

theorem after_dash (column : Nat) (text : List Char) (body : List (List Char)) (line : Line) (held : Holds ⟨column, itemText text, body⟩ line) :
    ∃ trail, Trail trail ∧ line.afterDash? = some ⟨column + 1 + ((spaced text ++ trail).takeWhile (· = ' ')).length,
      (spaced text ++ trail).dropWhile (· = ' ')⟩ := by
  obtain ⟨short, shorter, content⟩ := holds_content _ line held
  obtain ⟨-, indent, trail, behind, body⟩ := held
  have item : isItemText line.content = true := by
    rw [content]
    exact item_text_item text short shorter
  have dash : line.body = '-' :: (spaced text ++ trail) := body
  refine ⟨trail, behind, ?_⟩
  rw [Line.afterDash?, if_pos item, dash, indent]
  rfl

theorem after_dash_nothing (column : Nat) (body : List (List Char)) (line : Line) (held : Holds ⟨column, itemText [], body⟩ line) :
    ∃ item, line.afterDash? = some item ∧ Text.trim (stripComment item.body) = [] := by
  obtain ⟨trail, behind, found⟩ := after_dash column [] body line held
  refine ⟨_, found, ?_⟩
  rw [spaced, List.nil_append]
  cases behind with
  | none => rfl
  | comment width rest =>
      have dropped : (List.replicate width ' ' ++ '#' :: rest).dropWhile (· = ' ') = '#' :: rest := by
        rw [List.dropWhile_append_of_pos (by simp)]
        rfl
      show Text.trim (stripComment ((List.replicate width ' ' ++ '#' :: rest).dropWhile (· = ' '))) = []
      rw [dropped]
      rfl

theorem after_dash_text (column : Nat) (text : List Char) (body : List (List Char)) (line : Line) (ink : text ≠ [])
    (legible : IsLegible text) (held : Holds ⟨column, itemText text, body⟩ line) : ∃ item trail, line.afterDash? = some item ∧
      item.indent = column + 2 ∧ Trail trail ∧ item.body = text ++ trail := by
  obtain ⟨trail, behind, found⟩ := after_dash column text body line held
  obtain ⟨front, back⟩ := spaces_taken 1 text trail legible.trimmed
  have same : spaced text ++ trail = List.replicate 1 ' ' ++ (text ++ trail) := by
    rcases spaced_cases text with ⟨nothing, -⟩ | ⟨-, some_text⟩
    · exact absurd nothing ink
    · rw [some_text]
      rfl
  rw [same, front, back] at found
  exact ⟨_, trail, found, rfl, behind, rfl⟩

theorem spelled_no_item (s : Scalar) (text trail : List Char) (spelled : Spelled s text) : isItemText (text ++ trail) = false := by
  cases spelled with
  | yes => rfl
  | no => rfl
  | int i _ =>
      obtain ⟨sign, signs, split⟩ := int_text_cases i
      have every := nat_text_digits i.natAbs
      rw [split]
      cases digits : Numeral.natText i.natAbs with
      | nil => exact absurd digits Nat.toDigits_ne_nil
      | cons c rest =>
          rw [digits, List.forall_mem_cons] at every
          have no_dash : c ≠ '-' := by
            rintro rfl
            cases every.1
          have no_space : c ≠ ' ' := by
            rintro rfl
            cases every.1
          rcases signs with rfl | rfl <;> simp [isItemText, no_dash, no_space]
  | plain s plain =>
      obtain ⟨c, rest, split, starts⟩ := plain_start s.toList plain
      have no_dash := Text.name_start_ne c '-' starts (by decide)
      rw [split]
      simp [isItemText, no_dash]
  | _ => rfl

theorem inline_no_item (value : Value) (text trail : List Char) (inline : Inline value text) (ink : text ≠ []) :
    isItemText (text ++ trail) = false := by
  cases inline with
  | null => contradiction
  | scalar spelled => exact spelled_no_item _ text trail spelled
  | _ => rfl

theorem row_text_block (text trail : List Char) (row : IsRowText text) (behind : Trail trail) :
    (isItemText (text ++ trail) || (entryHead? text).isSome) = true := by
  cases row with
  | entry key inside written legible =>
      obtain ⟨said, head, -⟩ := entry_head key inside [] written legible .none
      rw [List.append_nil] at head
      rw [head, Option.isSome_some, Bool.or_true]
  | item inside _ => rw [item_text_item inside trail behind, Bool.true_or]

/-! ## Whole values -/

theorem inline_nothing (value : Value) (text : List Char) (inline : Inline value text) (nothing : text = []) :
    value = .null := by
  cases inline with
  | null => rfl
  | scalar spelled => exact absurd nothing (spelled_legible _ text spelled).trimmed.ink
  | _ => cases nothing

theorem read_inline (value : Value) (text said : List Char) (column : Nat) (cursor : Cursor) (tail : List Row)
    (inline : Inline value text) (same : Text.trim (stripComment said) = text) (ends : Beside column tail)
    (shown : Shown tail cursor.lines) : Reads (readValue said column cursor) value tail := by
  by_cases nothing : text = []
  · rw [inline_nothing value text inline nothing]
    exact read_value_null tail (same.trans nothing) shown ends
  · rw [read_value_scalar said column cursor (by rw [same]; exact nothing), same]
    exact read_scalar_inline value text column cursor tail inline nothing shown (beside_shallow column tail ends)

theorem entries_rows_start (column : Nat) (entries : Entries) (rows others : List Row) (first : Row)
    (written : EntriesRows column entries rows) (split : rows = first :: others) :
    first.column = column ∧ StartsName first.text := by
  cases written with
  | nil => cases split
  | cons here more name entry _ =>
      obtain ⟨text, body, below, rfl⟩ := entry_rows_first column _ _ here entry
      obtain ⟨c, rest, letters, starts, -⟩ := written_key_letters _ name
      cases split
      exact ⟨rfl, c, rest ++ ':' :: spaced text, by rw [entryText, letters, List.cons_append], starts⟩

theorem entries_rows_none (column : Nat) (entries : Entries) (written : EntriesRows column entries []) : entries = [] := by
  generalize split : ([] : List Row) = rows at written
  cases written with
  | nil => rfl
  | cons here more name entry _ =>
      obtain ⟨text, body, below, rfl⟩ := entry_rows_first column _ _ here entry
      cases split

theorem items_rows_start (column : Nat) (items : List Value) (rows others : List Row) (first : Row)
    (written : ItemsRows column items rows) (split : rows = first :: others) : first.column = column := by
  cases written with
  | nil => cases split
  | cons here more written _ =>
      obtain ⟨text, body, below, rfl⟩ := item_rows_first column _ here written
      cases split
      rfl

theorem items_rows_none (column : Nat) (items : List Value) (written : ItemsRows column items []) : items = [] := by
  generalize split : ([] : List Row) = rows at written
  cases written with
  | nil => rfl
  | cons here more written _ =>
      obtain ⟨text, body, below, rfl⟩ := item_rows_first column _ here written
      cases split

mutual

theorem block_read {column : Nat} {value : Value} {rows : List Row} : BlockRows column value rows →
    ∀ (first : Row) (others : List Row), rows = first :: others →
      ∀ (tail : List Row) (number : Nat) (line : Line) (rest : List Line), Below column tail → Holds first line →
        Behind first.body (others ++ tail) rest → Reads (readBlock number line rest) (merged value) tail
  | .map _ written => by
      intro first others split tail number line rest below held shown
      obtain ⟨same, starts⟩ := entries_rows_start column _ rows others first written split
      rw [read_block_mapping number line rest (name_no_dash first line starts held), held.column, same]
      exact entries_read written first others split [] tail number line rest below held shown
  | .list _ written => by
      intro first others split tail number line rest below held shown
      have same := items_rows_start column _ rows others first written split
      obtain ⟨item, behind, read⟩ := items_read written first others split [] tail number line rest
        (below_beside column tail below) held shown
      rw [read_block_sequence number line item rest behind, held.column, same]
      exact read

theorem entries_read {column : Nat} {entries : Entries} {rows : List Row} : EntriesRows column entries rows →
    ∀ (first : Row) (others : List Row), rows = first :: others →
      ∀ (done : Entries) (tail : List Row) (number : Nat) (line : Line) (rest : List Line),
        Below column tail → Holds first line → Behind first.body (others ++ tail) rest →
          Reads (readMapping column done number line rest) (.map (mergedEntries done entries)) tail
  | .nil => nofun
  | @EntriesRows.cons _ key value entries rows more name entry later => by
      intro first others split done tail number line rest below held shown
      have onward := entries_read later
      obtain ⟨text, body, under, here, legible, read⟩ := entry_read entry
      subst here
      cases split
      obtain ⟨trail, behind, content⟩ := holds_content _ line held
      obtain ⟨said, head, same⟩ := entry_head key text trail name legible behind
      have found : entryHead? line.content = some ⟨.plain key.toList, said⟩ := content ▸ head
      have named := written_key_read key name
      have level : line.indent = column := held.column
      have shown : Behind body (under ++ (more ++ tail)) rest := by simpa using shown
      cases more with
      | nil =>
          obtain rfl := entries_rows_none column entries later
          have read := read tail said ⟨number + 1, rest⟩ same (below_beside column tail below) shown
          rw [← level] at read
          exact read_mapping_last tail found named read below
      | cons row more =>
          obtain ⟨same_column, starts⟩ := entries_rows_start column entries _ more row later rfl
          have read := read (row :: (more ++ tail)) said ⟨number + 1, rest⟩ same
            (fun next member => by cases member; exact .inr ⟨same_column, starts⟩) shown
          rw [← level] at read
          refine read_mapping_next row (more ++ tail) tail _ found named read same_column starts
            fun nextNumber nextLine after held shown => ?_
          exact onward row more rfl _ tail nextNumber nextLine after below held shown

theorem entry_read {column : Nat} {key : String} {value : Value} {rows : List Row} : EntryRows column key value rows →
    ∃ text body below, rows = ⟨column, entryText key text, body⟩ :: below ∧ (text ≠ [] → IsLegible text) ∧
      ∀ (tail : List Row) (said : List Char) (cursor : Cursor), Text.trim (stripComment said) = text → Beside column tail →
        Behind body (below ++ tail) cursor.lines → Reads (readValue said column cursor) (merged value) tail
  | .inline text inline => by
      refine ⟨text, [], [], rfl, inline_legible value text inline, fun tail said cursor same ends shown => ?_⟩
      rw [inline_merged value text inline]
      exact read_inline value text said column cursor tail inline same ends (behind_bare tail _ shown)
  | .text mark lines deeper deep text => by
      refine ⟨mark, _, [], rfl, fun _ => block_text_mark _ mark lines text, fun tail said cursor same ends behind => ?_⟩
      exact read_block_text _ mark lines text deep tail said cursor same (beside_shallow column tail ends) behind
  | .nested deeper below deep written => by
      have inner := block_read written
      refine ⟨[], [], below, rfl, by simp, fun tail said cursor same ends shown => ?_⟩
      obtain ⟨text, body, others, rfl⟩ := block_rows_first deeper value below written
      have under : Below deeper tail := fun row member => by
        rcases ends row member with less | ⟨level, -⟩ <;> omega
      exact read_value_below _ (others ++ tail) tail (merged value) same (behind_bare _ _ shown) deep fun number line rest held shown =>
        inner _ others rfl tail number line rest under held shown
  | .level below some_item written => by
      have inner := items_read written
      refine ⟨[], [], below, rfl, by simp, fun tail said cursor same ends shown => ?_⟩
      cases below with
      | nil => exact absurd (items_rows_none column _ written) some_item
      | cons first others =>
          have level := items_rows_start column _ _ others first written rfl
          exact read_value_level first (others ++ tail) tail _ same (behind_bare _ _ shown) level fun number line rest held shown =>
            inner first others rfl [] tail number line rest ends held shown

theorem items_read {column : Nat} {items : List Value} {rows : List Row} : ItemsRows column items rows →
    ∀ (first : Row) (others : List Row), rows = first :: others →
      ∀ (done : List Value) (tail : List Row) (number : Nat) (line : Line) (rest : List Line), Beside column tail →
        Holds first line → Behind first.body (others ++ tail) rest → ∃ item, line.afterDash? = some item ∧
          Reads (readSequence column done column item number rest) (.list (done ++ mergedItems items)) tail
  | .nil => nofun
  | @ItemsRows.cons _ value items rows more written later => by
      intro first others split done tail number line rest ends held shown
      have onward := items_read later
      obtain ⟨text, body, under, here, read⟩ := item_read written
      subst here
      cases split
      have whole : done ++ merged value :: mergedItems items = (done ++ [merged value]) ++ mergedItems items := by simp
      have shown : Behind body (under ++ (more ++ tail)) rest := by simpa using shown
      cases more with
      | nil =>
          obtain rfl := items_rows_none column items later
          obtain ⟨item, behind, read⟩ := read tail number line rest (beside_shallow column tail ends) held shown
          exact ⟨item, behind, read_sequence_last tail read ends⟩
      | cons row more =>
          have level := items_rows_start column items _ more row later rfl
          obtain ⟨item, behind, read⟩ := read (row :: (more ++ tail)) number line rest
            (fun next member => by cases member; exact Nat.le_of_eq level) held shown
          refine ⟨item, behind, ?_⟩
          rw [mergedItems, whole]
          exact read_sequence_next row (more ++ tail) tail _ read level fun nextNumber nextLine after held shown =>
            onward row more rfl _ tail nextNumber nextLine after ends held shown

theorem item_read {column : Nat} {value : Value} {rows : List Row} : ItemRows column value rows →
    ∃ text body below, rows = ⟨column, itemText text, body⟩ :: below ∧
      ∀ (tail : List Row) (number : Nat) (line : Line) (rest : List Line), (∀ row ∈ tail.head?, row.column ≤ column) →
        Holds ⟨column, itemText text, body⟩ line → Behind body (below ++ tail) rest → ∃ item, line.afterDash? = some item ∧
          Reads (readItem column item number rest) (merged value) tail
  | .inline text inline => by
      refine ⟨text, [], [], rfl, fun tail number line rest shallow held behind => ?_⟩
      have shown := behind_bare tail rest behind
      rw [inline_merged value text inline]
      by_cases nothing : text = []
      · subst nothing
        obtain ⟨item, behind, silent⟩ := after_dash_nothing column [] line held
        rw [inline_nothing value [] inline rfl]
        exact ⟨item, behind, read_item_null tail silent shown shallow⟩
      · have legible := inline_legible value text inline nothing
        obtain ⟨item, trail, found, -, behind, body⟩ := after_dash_text column text [] line nothing legible held
        have stripped : stripComment item.body = text := body ▸ strip_trail text trail legible behind
        have same : Text.trim (stripComment item.body) = text := stripped ▸ trimmed_trim text legible.trimmed
        refine ⟨item, found, read_item_value tail ?_ ?_ ?_ ?_⟩
        · rw [same]
          exact nothing
        · rw [body]
          exact inline_no_item value text trail inline nothing
        · rw [stripped]
          exact inline_no_entry value text inline
        · rw [read_value_scalar _ _ _ (by rw [same]; exact nothing), same]
          exact read_scalar_inline value text column _ tail inline nothing shown shallow
  | .inPlace text body below written => by
      refine ⟨text, body, below, rfl, fun tail number line rest shallow held shown => ?_⟩
      have row := (block_rows_are written _ List.mem_cons_self).text
      have legible := row_text_legible text row
      obtain ⟨item, trail, found, indent, behind, said⟩ :=
        after_dash_text column text body line legible.trimmed.ink legible held
      have stripped : stripComment item.body = text := said ▸ strip_trail text trail legible behind
      have under : Below (column + 2) tail := fun next member => by
        have := shallow next member
        omega
      refine ⟨item, found, read_item_block tail ?_ ?_ ?_⟩
      · rw [stripped, trimmed_trim text legible.trimmed]
        exact legible.trimmed.ink
      · rw [stripped, said]
        exact row_text_block text trail row behind
      · exact block_read written _ below rfl tail number item rest under ⟨row, indent, trail, behind, said⟩ shown

end

theorem rows_laid_out (rows : List Row) (are : ∀ row ∈ rows, IsRow row) : ∃ lines, LaidOut rows lines ∧ Resumes lines := by
  induction rows with
  | nil => exact ⟨[[]], .filler [] [] ⟨rfl, rfl⟩ .nil, .inl rfl⟩
  | cons row rows ih =>
      obtain ⟨here, others⟩ := List.forall_mem_cons.mp are
      obtain ⟨lines, laid, resumes⟩ := ih others
      refine ⟨_, .row [] lines .none rfl (.inr resumes) laid, .inr ?_⟩
      rw [List.head?_cons, Option.any_some, row_not_silent row.column row.text [] here.text .none]
      rfl

theorem laid_out_value (column : Nat) (value : Value) (rows : List Row) (lines : List (List Char))
    (written : BlockRows column value rows) (laid : LaidOut rows lines) :
    readText (Text.joinFeeds lines) = .ok (merged value) := by
  have are := block_rows_are written
  have shown := laid_out_shown rows lines laid are
  rw [laid_out_read rows lines laid are]
  obtain ⟨text, body, others, rfl⟩ := block_rows_first column value rows written
  obtain ⟨number, line, rest, first, held, left⟩ := settle_row 1 _ others _ shown
  obtain ⟨place, read, remain⟩ := block_read written _ others rfl [] number line rest nofun held (by simpa using left)
  obtain ⟨last, ends⟩ := settled_end place remain
  exact read_lines_value number last line _ rest (merged value) place first read ends

theorem block_laid_out (column : Nat) (value : Value) (rows : List Row) (written : BlockRows column value rows) :
    ∃ lines, LaidOut rows lines := by
  obtain ⟨lines, laid, -⟩ := rows_laid_out rows (block_rows_are written)
  exact ⟨lines, laid⟩

end PipelineLint.Document

namespace PipelineLint

open Document

theorem written_block_read (value : Value) (writable : Writable value) (parts : HasParts value) (column : Nat) :
    (∃ rows lines, BlockRows column value rows ∧ LaidOut rows lines) ∧
      ∀ rows lines, BlockRows column value rows → LaidOut rows lines →
        readDocument (String.ofList (Text.joinFeeds lines)) = .ok value := by
  constructor
  · obtain ⟨rows, written⟩ := parts_written value writable parts column
    obtain ⟨lines, laid⟩ := block_laid_out column value rows written
    exact ⟨rows, lines, written, laid⟩
  · intro rows lines written laid
    rw [readDocument, String.toList_ofList, laid_out_value column value rows lines written laid,
      writable_merged value writable]

def writtenSample : Value :=
  .map [(.str "input", .map [(.str "stdin", .map [])]),
    (.str "pipeline", .map [(.str "processors", .list [.map [(.str "mapping", .str "root = this # b\n")], .null])])]

theorem written_block_read_sample : Writable writtenSample ∧ HasParts writtenSample ∧
    readDocument "# demo\ninput:\n  stdin: \x7b\x7d  # none\npipeline:\n  processors:\n  - mapping: |\n      root = this # b\n  -\n" =
      .ok writtenSample := by
  have text : BlockText "root = this # b\n" ['|'] ["root = this # b".toList] :=
    .lines false .clip ["root = this # b".toList] 0 ⟨by decide, List.forall_mem_singleton.mpr fun _ => ⟨'r', by decide, by decide⟩,
      ⟨'r', _, _, rfl, by decide⟩, ⟨_, rfl, by decide⟩⟩ (by decide)
  have item : Writable (.map [(.str "mapping", .str "root = this # b\n")]) := single_writable _ _ (by decide) (.text _ _ _ text)
  have input : Writable (.map [(.str "stdin", .map [])]) := single_writable _ _ (by decide) (.inline _ _ .noEntries)
  have processors : Writable (.list [.map [(.str "mapping", .str "root = this # b\n")], .null]) :=
    .list _ (List.forall_mem_cons.mpr ⟨item, List.forall_mem_singleton.mpr (.inline _ _ .null)⟩) (by simp)
  have pipeline := single_writable "processors" _ (by decide) processors
  have writable : Writable writtenSample :=
    pair_writable "input" "pipeline" _ _ (by decide) (by decide) (by decide) input pipeline
  have parts : HasParts writtenSample := List.cons_ne_nil _ _
  refine ⟨writable, parts, ?_⟩
  have mapping : BlockRows 4 (.map [(.str "mapping", .str "root = this # b\n")])
      [⟨4, entryText "mapping" ['|'], ["      root = this # b".toList]⟩] :=
    .map (by simp) (.cons [_] [] (by decide) (.text _ _ 6 (by decide) text) .nil)
  have rows : BlockRows 0 writtenSample [⟨0, entryText "input" [], []⟩, ⟨2, entryText "stdin" ['\x7b', '\x7d'], []⟩,
      ⟨0, entryText "pipeline" [], []⟩, ⟨2, entryText "processors" [], []⟩,
      ⟨2, itemText (entryText "mapping" ['|']), ["      root = this # b".toList]⟩, ⟨2, itemText [], []⟩] := by
    refine .map (by simp) (.cons [_, _] [_, _, _, _] (by decide) (.nested 2 [_] (by decide) ?_)
      (.cons [_, _, _, _] [] (by decide) (.nested 2 [_, _, _] (by decide) ?_) .nil))
    · exact .map (by simp) (.cons [_] [] (by decide) (.inline _ .noEntries) .nil)
    · refine .map (by simp) (.cons [_, _, _] [] (by decide) (.level [_, _] (by simp) ?_) .nil)
      exact .cons [_] [_] (.inPlace _ _ [] mapping) (.cons [_] [] (.inline [] .null) .nil)
  have read := (written_block_read writtenSample writable parts 0).2 _ _ rows
    (.filler "# demo".toList _ ⟨by decide, by decide⟩
      (.row [] _ .none rfl (.inl rfl) (.row _ _ (.comment 1 " none".toList) (by decide) (.inl rfl) (.row [] _ .none rfl (.inl rfl)
        (.row [] _ .none rfl (.inl rfl) (.row [] _ .none rfl (.inr (.inr (by decide))) (.row [] _ .none rfl (.inl rfl)
          (.filler [] _ ⟨rfl, rfl⟩ .nil))))))))
  refine (congrArg readDocument ?_).trans read
  decide

end PipelineLint
