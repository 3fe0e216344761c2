import PipelineLint.Proofs.KeptLines
import PipelineLint.Value.Display

set_option autoImplicit false

namespace PipelineLint.Repair

abbrev Levels := List (Nat × Level)

abbrev KeyPath := String × List Level

def KeySite.path (site : KeySite) : KeyPath :=
  (site.key, site.above)

mutual

def keyPaths (above : List Level) : Value → List KeyPath
  | .scalar _ => []
  | .list items => itemPaths above items
  | .map entries => entryPaths above entries

def itemPaths (above : List Level) : List Value → List KeyPath
  | [] => []
  | item :: items => keyPaths (.item :: above) item ++ itemPaths above items

def entryPaths (above : List Level) : Entries → List KeyPath
  | [] => []
  | (key, value) :: entries =>
      (key.display, above) :: (keyPaths (.key key.display :: above) value ++ entryPaths above entries)

end

mutual

-- No list is an item of a list.
def ListsApart : Value → Prop
  | .scalar _ => True
  | .list items => ItemsApart items
  | .map entries => EntriesApart entries

def ItemsApart : List Value → Prop
  | [] => True
  | item :: items => item.items? = none ∧ ListsApart item ∧ ItemsApart items

def EntriesApart : Entries → Prop
  | [] => True
  | (_, value) :: entries => ListsApart value ∧ EntriesApart entries

end

/-! ## Levels that stay open -/

theorem ended_levels (ends : Nat × Level → Bool) (extra base : Levels) (inner : ∀ level ∈ extra, ends level = true)
    (outer : ∀ level ∈ base.head?, ends level = false) : (extra ++ base).dropWhile ends = base := by
  rw [List.dropWhile_append_of_pos inner]
  cases base with
  | nil => rfl
  | cons level base => rw [List.dropWhile_cons_of_neg (by simp [outer level rfl])]

-- The levels that end in front of an entry, and in front of a dash: an item ends in its own column, its owner does not.
def endsAtEntry (column : Nat) (level : Nat × Level) : Bool :=
  column ≤ level.1

def endsAtItem (column : Nat) (level : Nat × Level) : Bool :=
  column < level.1 ∨ level.1 = column ∧ level.2 = .item

theorem ends_at_entry (column : Nat) (level : Nat × Level) (ends : endsAtItem column level = true) :
    endsAtEntry column level = true := by
  simp only [endsAtItem, endsAtEntry, decide_eq_true_eq] at ends ⊢
  omega

theorem ends_deeper (column deeper : Nat) (level : Nat × Level) (deep : column < deeper)
    (ends : endsAtEntry deeper level = true) : endsAtItem column level = true := by
  simp only [endsAtItem, endsAtEntry, decide_eq_true_eq] at ends ⊢
  exact .inl (Nat.lt_of_lt_of_le deep ends)

end PipelineLint.Repair

namespace PipelineLint.Document

open Repair

/-! ## The shapes of rows -/

def rowLine (column : Nat) (text trail : List Char) : List Char :=
  List.replicate column ' ' ++ (text ++ trail)

def RowShape (row : Row) (shape : Shape) : Prop :=
  ∀ trail, Trail trail → lineShape (rowLine row.column row.text trail) = shape

theorem row_shape_unique (row : Row) (first second : Shape) (one : RowShape row first) (other : RowShape row second) :
    first = second :=
  (one [] .none).symm.trans (other [] .none)

section Lines

variable (column : Nat) (text trail : List Char) (row : IsRowText text) (behind : Trail trail)

include row

theorem row_indent : indentOf (rowLine column text trail) = column := by
  have spaces := (spaces_taken column text trail (row_text_legible text row).trimmed).1
  rw [rowLine, indentOf, spaces, List.length_replicate]

omit row in
theorem row_dropped : (rowLine column text trail).drop column = text ++ trail :=
  List.drop_left' List.length_replicate

include behind

theorem row_ink : ∃ short, Trail short ∧ Text.trim (rowLine column text trail) = text ++ short := by
  obtain ⟨short, shorter, same⟩ : ∃ short, Trail short ∧ Text.trim (text ++ trail) = text ++ short :=
    content_with_trail text trail (row_text_legible text row).trimmed behind
  refine ⟨short, shorter, ?_⟩
  rw [← same, Text.trim, Text.trim, rowLine, trim_left_blanks _ _ (Text.spaces_blank column)]

theorem row_line_lead : leadOf (rowLine column text trail) =
    match dashWidth? (text ++ trail) with
    | some width =>
        if inkEnd (rowLine column text trail) ≤ column + width then .dash column else .entry (some column) (column + width)
    | none => .entry none column := by
  obtain ⟨short, shorter, content⟩ := row_ink column text trail row behind
  have shown : (Text.trim (rowLine column text trail) = [] || (Text.trim (rowLine column text trail)).head? = some '#') =
      false ∧ isMarker (Text.trim (rowLine column text trail)) = false := by
    rw [content]
    rcases row_text_start text short row shorter with ⟨first, rest, split, starts⟩ | split | ⟨rest, split⟩ <;> rw [split]
    · simp [Text.name_start_ne first '#' starts (by decide), start_no_marker first rest starts]
    · decide
    · simp [isMarker, startsMark]
  unfold leadOf
  cases dash : dashWidth? (text ++ trail) <;>
    simp only [shown, row_indent column text trail row, row_dropped, dash, Bool.and_false, Bool.false_eq_true, if_false]

end Lines

theorem item_paths_scalars (items : List Value) (scalars : ∀ item ∈ items, ∃ s, item = .scalar s) (above : List Level) :
    itemPaths above items = [] := by
  induction items with
  | nil => rfl
  | cons item items ih =>
      obtain ⟨⟨s, rfl⟩, others⟩ := List.forall_mem_cons.mp scalars
      rw [itemPaths, keyPaths, ih others]
      rfl

theorem inline_no_keys (value : Value) (text : List Char) (inline : Inline value text) (above : List Level) :
    keyPaths above value = [] := by
  cases inline with
  | items listed => exact item_paths_scalars _ (flow_items_scalars _ _ listed) above
  | _ => rfl

theorem inline_head (value : Value) (text : List Char) (inline : Inline value text) (ink : text ≠ []) :
    ∃ c rest, text = c :: rest ∧ isGap c = false ∧ c ≠ '|' ∧ c ≠ '>' := by
  cases inline with
  | null => contradiction
  | scalar spelled =>
      rcases spelled_cases _ text spelled with ⟨quote, t, -, rfl, quotes, -⟩ | ⟨c, rest, rfl, letter, -⟩
      · refine ⟨quote, _, rfl, ?_⟩
        rcases Bool.or_eq_true_iff.mp quotes with same | same <;> rw [of_decide_eq_true same] <;> decide
      · have other (d : Char) (no_letter : isWordLetter d = false) : c ≠ d := word_letter_not c d letter no_letter
        exact ⟨c, rest, rfl, by simp [isGap, other ' ' (by decide), other '\t' (by decide)], other '|' (by decide), other '>' (by decide)⟩
  | _ => exact ⟨_, _, rfl, by decide⟩

theorem comment_behind_gap (trail : List Char) (behind : Trail trail) :
    trail.head?.all isGap = true ∧ (trail.dropWhile isGap = [] ∨ ∃ rest, trail.dropWhile isGap = '#' :: rest) := by
  cases behind with
  | none => exact ⟨rfl, .inl rfl⟩
  | comment width text =>
      refine ⟨rfl, .inr ⟨text, ?_⟩⟩
      rw [List.dropWhile_cons_of_pos (by decide),
        List.dropWhile_append_of_pos fun c member => by rw [List.eq_of_mem_replicate member]; rfl]
      rfl

-- The text behind a key, and whether lines of a text stand below it.
structure Stands (text : List Char) (opens : Bool) : Prop where
  legible : text ≠ [] → IsLegible text
  front : text.head?.all (fun c => !isGap c) = true
  opens : ∀ trail, Trail trail → opensBlock ((text ++ trail).dropWhile isGap) = opens

theorem stands_inline (value : Value) (text : List Char) (inline : Inline value text) : Stands text false := by
  have legible := inline_legible value text inline
  cases text with
  | nil =>
      refine ⟨legible, rfl, fun trail behind => ?_⟩
      rw [List.nil_append]
      rcases (comment_behind_gap trail behind).2 with left | ⟨rest, left⟩ <;> rw [left]
      · rfl
      · simp [opensBlock]
  | cons _ _ =>
      obtain ⟨c, rest, split, solid, no_bar, no_fold⟩ := inline_head value _ inline (List.cons_ne_nil _ _)
      rw [split] at legible ⊢
      refine ⟨legible, by simp [solid], fun trail _ => ?_⟩
      rw [List.cons_append, List.dropWhile_cons_of_neg (by simp [solid]), opensBlock]
      simp [no_bar, no_fold]

theorem stands_mark (s : String) (mark : List Char) (lines : List (List Char)) (text : BlockText s mark lines) : Stands mark true := by
  have legible := block_text_mark s mark lines text
  cases text with
  | lines folds chomp lines blanks _ _ =>
      have bar : isGap (blockMark folds) = false ∧ (blockMark folds = '|' || blockMark folds = '>') = true := by
        cases folds <;> decide
      refine ⟨fun _ => legible, by simp [bar.1], fun trail behind => ?_⟩
      have ends : (trail.dropWhile fun c => c = '-' || c = '+' || c.isDigit) = trail := by
        rcases trail_cases trail behind with rfl | ⟨rest, rfl⟩ <;> rfl
      have comment : (trail.dropWhile Text.isBlank).head?.all (· = '#') = true := by
        cases behind with
        | none => rfl
        | comment width text =>
            rw [List.dropWhile_cons_of_pos (by decide),
              List.dropWhile_append_of_pos fun c member => by rw [List.eq_of_mem_replicate member]; rfl]
            rfl
      have marks : ((chomp.mark ++ trail).dropWhile fun c => c = '-' || c = '+' || c.isDigit) = trail := by
        cases chomp <;> simpa [Chomp.mark] using ends
      rw [List.cons_append, List.dropWhile_cons_of_neg (by simp [bar.1]), opensBlock, bar.2, marks, comment]
      rfl

theorem entry_behind (key : String) (text trail : List Char) (opens : Bool) (named : isWrittenKey key.toList = true)
    (stands : Stands text opens) (behind : Trail trail) :
    ∃ said, plainEntry? (entryText key text ++ trail) = some (key.toList, said) ∧ opensBlock said = opens := by
  have split : entryText key text ++ trail = key.toList ++ ':' :: (spaced text ++ trail) := by simp [entryText]
  have same : (spaced text ++ trail).dropWhile isGap = (text ++ trail).dropWhile isGap := by
    rcases spaced_cases text with ⟨nothing, shown⟩ | ⟨-, shown⟩ <;> rw [shown]
    · rw [nothing]
    · rfl
  have gap : (spaced text ++ trail).head?.all isGap = true := by
    rcases spaced_cases text with ⟨-, shown⟩ | ⟨-, shown⟩ <;> rw [shown]
    · exact (comment_behind_gap trail behind).1
    · rfl
  refine ⟨(spaced text ++ trail).dropWhile isGap, ?_, same ▸ stands.opens trail behind⟩
  rw [split]
  exact entry_of_key key.toList _ _ (written_key_name key.toList named) (key_tail_gap [] _ (by simp) gap)

theorem entry_row_shape (column : Nat) (key : String) (text : List Char) (body : List (List Char)) (opens : Bool)
    (named : isWrittenKey key.toList = true) (stands : Stands text opens) :
    RowShape ⟨column, entryText key text, body⟩ (.entry none column key opens) := by
  intro trail behind
  have row : IsRowText (entryText key text) := .entry key text named stands.legible
  obtain ⟨said, entry, same⟩ := entry_behind key text trail opens named stands behind
  obtain ⟨first, rest, letters, starts, -⟩ := written_key_letters key.toList named
  have no_dash : dashWidth? (entryText key text ++ trail) = none := by
    have other := Text.name_start_ne first '-' starts (by decide)
    rw [entryText, letters]
    simp [dashWidth?, other]
  have lead := row_line_lead column (entryText key text) trail row behind
  rw [no_dash] at lead
  show lineShape (rowLine column (entryText key text) trail) = _
  unfold lineShape
  rw [lead]
  simp only
  rw [row_dropped, entry]
  simp only [same, String.ofList_toList]

/-! ## Rows behind a dash -/

theorem behind_dash (text trail : List Char) (legible : text ≠ [] → IsLegible text) (behind : Trail trail) :
    ∃ width, dashWidth? (itemText text ++ trail) = some width ∧
      ((text = [] ∧ plainEntry? ((itemText text ++ trail).drop width) = none) ∨
        (text ≠ [] ∧ width = 2 ∧ (itemText text ++ trail).drop width = text ++ trail)) := by
  rcases spaced_cases text with ⟨nothing, silent⟩ | ⟨ink, some_text⟩
  · rw [itemText, silent]
    cases behind with
    | none => exact ⟨1, rfl, .inl ⟨nothing, rfl⟩⟩
    | comment width rest =>
        have spaces : (List.replicate width ' ' ++ '#' :: rest).takeWhile (· = ' ') = List.replicate width ' ' := by
          rw [List.takeWhile_append_of_pos (by simp), List.takeWhile_cons_of_neg (by decide), List.append_nil]
        refine ⟨2 + width, by simp only [List.cons_append, List.nil_append, dashWidth?, spaces, List.length_replicate], ?_⟩
        refine .inl ⟨nothing, ?_⟩
        have left : (['-'] ++ ' ' :: (List.replicate width ' ' ++ '#' :: rest)).drop (2 + width) = '#' :: rest := by
          rw [Nat.add_comm, List.cons_append, List.nil_append, List.drop_succ_cons, List.drop_succ_cons,
            List.drop_left' List.length_replicate]
        rw [left]
        rfl
  · have flush : (text ++ trail).takeWhile (· = ' ') = [] := (spaces_taken 0 text trail (legible ink).trimmed).1
    rw [itemText, some_text]
    refine ⟨2, ?_, .inr ⟨ink, rfl, rfl⟩⟩
    simp only [List.cons_append, dashWidth?, flush, List.length_nil]

theorem trail_sign (trail others rest : List Char) (behind : Trail trail) (split : trail = others ++ ':' :: rest) : '#' ∈ others := by
  cases behind with
  | none => simp at split
  | comment width text =>
      rcases append_split (' ' :: List.replicate width ' ') ('#' :: text) others rest ':' (by simpa using split) with
        ⟨more, rfl, comment⟩ | ⟨more, spaces, -⟩
      · cases more with
        | nil => cases comment
        | cons c more =>
            obtain ⟨rfl, -⟩ := List.cons.inj comment
            simp
      · have colon : ':' ∈ List.replicate (width + 1) ' ' := by
          rw [List.replicate_succ, spaces]
          simp
        cases List.eq_of_mem_replicate colon

theorem key_name_no_sign (name : List Char) (named : isKeyName name = true) : '#' ∉ name := by
  obtain ⟨c, rest, rfl, starts, letters⟩ := key_name_cases name named
  rintro (_ | ⟨_, inside⟩)
  · cases starts
  · exact absurd (letters '#' inside) (by decide)

theorem plain_no_plain_entry (text trail : List Char) (plain : IsPlainText text) (behind : Trail trail) :
    plainEntry? (text ++ trail) = none := by
  cases entry : plainEntry? (text ++ trail) with
  | none => rfl
  | some found =>
      obtain ⟨name, value⟩ := found
      obtain ⟨tail, split, named, keyed⟩ := key_of_entry _ name value entry
      obtain ⟨gap, rest, rfl, gaps, opens⟩ := key_tail_colon tail value keyed
      rcases append_split text trail (name ++ gap) rest ':' (by simpa using split) with ⟨others, front, back⟩ | ⟨others, inside, rfl⟩
      · have sign : '#' ∈ name ++ gap := by
          rw [front]
          exact List.mem_append_right _ (trail_sign trail others rest behind back)
        rcases List.mem_append.mp sign with member | member
        · exact absurd member (key_name_no_sign name named)
        · exact absurd (gaps '#' member) (by decide)
      · have colons := plain.colons
        rw [inside] at colons
        obtain ⟨d, more, rfl, visible⟩ := colons_behind _ others colons
        have gap : isGap d = true := opens
        rcases Bool.or_eq_true_iff.mp gap with same | same <;> rw [of_decide_eq_true same] at visible <;> cases visible

theorem spelled_no_plain_entry (s : Scalar) (text trail : List Char) (spelled : Spelled s text) (behind : Trail trail) :
    plainEntry? (text ++ trail) = none := by
  have word (name : List Char) (named : isKeyName name = true) : plainEntry? (name ++ trail) = none := by
    obtain ⟨c, rest, rfl, starts, keys⟩ := key_name_cases name named
    obtain ⟨gap, comment⟩ := comment_behind_gap trail behind
    have ends : trail.dropWhile isKeyCharacter = trail := by
      rcases trail_cases trail behind with rfl | ⟨rest, rfl⟩ <;> rfl
    rw [List.cons_append, plain_entry_cons c _ starts, valueBehind?, List.dropWhile_append_of_pos keys, ends]
    rcases comment with left | ⟨rest, left⟩ <;> rw [left] <;> rfl
  cases spelled with
  | yes => exact word _ (by decide)
  | no => exact word _ (by decide)
  | int i _ =>
      obtain ⟨c, rest, split, first, -⟩ := int_text_head i
      have no_name : Text.isNameStart c = false := by
        cases starts : Text.isNameStart c with
        | false => rfl
        | true =>
            rcases first with rfl | digit
            · cases starts
            · rw [Text.name_start_not_digit c starts] at digit
              cases digit
      rw [split]
      simp [ plainEntry?, no_name]
  | plain s plain => exact plain_no_plain_entry s.toList trail plain behind
  | _ => rfl

theorem inline_no_plain_entry (value : Value) (text trail : List Char) (inline : Inline value text) (behind : Trail trail)
    (ink : text ≠ []) : plainEntry? (text ++ trail) = none := by
  cases inline with
  | null => contradiction
  | scalar spelled => exact spelled_no_plain_entry _ text trail spelled behind
  | _ => rfl

theorem item_row_shape (column : Nat) (value : Value) (text : List Char) (inline : Inline value text) :
    RowShape ⟨column, itemText text, []⟩ (.plain (some column)) := by
  intro trail behind
  have legible := inline_legible value text inline
  have row : IsRowText (itemText text) := .item text legible
  obtain ⟨width, dash, left⟩ := behind_dash text trail legible behind
  have no_entry : plainEntry? ((itemText text ++ trail).drop width) = none := by
    rcases left with ⟨-, none_left⟩ | ⟨ink, -, same⟩
    · exact none_left
    · rw [same]
      exact inline_no_plain_entry value text trail inline behind ink
  have lead := row_line_lead column (itemText text) trail row behind
  rw [dash] at lead
  show lineShape (rowLine column (itemText text) trail) = _
  unfold lineShape
  by_cases inked : inkEnd (rowLine column (itemText text) trail) ≤ column + width
  · simp only [if_pos inked] at lead
    rw [lead]
  · simp only [if_neg inked] at lead
    rw [lead]
    simp only
    rw [← List.drop_drop, row_dropped, no_entry]

theorem item_entry_shape (column : Nat) (key : String) (text : List Char) (body : List (List Char)) (opens : Bool)
    (named : isWrittenKey key.toList = true) (stands : Stands text opens) :
    RowShape ⟨column, itemText (entryText key text), body⟩ (.entry (some column) (column + 2) key opens) := by
  intro trail behind
  have legible : IsLegible (entryText key text) := entry_legible key text named stands.legible
  have row : IsRowText (itemText (entryText key text)) := .item _ fun _ => legible
  obtain ⟨said, entry, opened⟩ := entry_behind key text trail opens named stands behind
  obtain ⟨width, dash, left⟩ := behind_dash (entryText key text) trail (fun _ => legible) behind
  obtain ⟨-, rfl, same⟩ := left.resolve_left fun nothing => legible.trimmed.ink nothing.1
  obtain ⟨first, rest, letters, starts, -⟩ := written_key_letters key.toList named
  have inked : ¬ inkEnd (rowLine column (itemText (entryText key text)) trail) ≤ column + 2 := by
    have ink := ink_end_before (List.replicate column ' ' ++ ['-', ' ']) (rest ++ ':' :: (spaced text ++ trail)) first starts
    have whole : rowLine column (itemText (entryText key text)) trail =
        (List.replicate column ' ' ++ ['-', ' ']) ++ first :: (rest ++ ':' :: (spaced text ++ trail)) := by
      rw [rowLine, item_text_ink _ legible.trimmed.ink, entryText, letters]
      simp
    rw [whole]
    simpa using ink
  have lead := row_line_lead column (itemText (entryText key text)) trail row behind
  rw [dash] at lead
  simp only [if_neg inked] at lead
  show lineShape (rowLine column (itemText (entryText key text)) trail) = _
  unfold lineShape
  rw [lead]
  simp only
  rw [← List.drop_drop, row_dropped, same, entry]
  simp only [opened, String.ofList_toList]

/-! ## Rows one after the other -/

-- Whether a text of several lines that is open ends in front of a column.
def Closes (column : Nat) (block : Option OpenBlock) : Prop :=
  ∀ inside ∈ block, column ≤ inside.column

def IsBodyOf (block : Option OpenBlock) (line : List Char) : Prop :=
  ∃ inside ∈ block, line = [] ∨ inside.column < indentOf line

-- Rows below open levels, what they leave open, and the keys that are found in them.
inductive Scanned : Place → List Row → Place → List KeyPath → Prop where
  | nil {place : Place} : Scanned place [] place []
  | cons {place last : Place} {row : Row} {rows : List Row} {paths : List KeyPath} (shape : Shape) :
      RowShape row shape → Closes row.column place.block →
      (∀ line ∈ row.body, IsBodyOf (shape.place ⟨place.levels, none⟩).block line) →
      Scanned (shape.place ⟨place.levels, none⟩) rows last paths →
      Scanned place (row :: rows) last ((shape.keys 0 place.levels).map KeySite.path ++ paths)

theorem scanned_append {place next last : Place} {rows more : List Row} {paths others : List KeyPath}
    (front : Scanned place rows next paths) (back : Scanned next more last others) :
    Scanned place (rows ++ more) last (paths ++ others) := by
  induction front with
  | nil => exact back
  | cons shape here closes body _ ih =>
      rw [List.cons_append, List.append_assoc]
      exact .cons shape here closes body (ih back)

theorem scanned_closed {place last : Place} {rows : List Row} {paths : List KeyPath} (scanned : Scanned place rows last paths) :
    ∃ end_place, Scanned ⟨place.levels, none⟩ rows end_place paths := by
  cases scanned with
  | nil => exact ⟨_, .nil⟩
  | cons shape here _ body scanned => exact ⟨last, .cons shape here nofun body scanned⟩

theorem shape_paths (shape : Shape) (first second : Nat) (levels : Levels) :
    (shape.keys first levels).map KeySite.path = (shape.keys second levels).map KeySite.path := by
  cases shape <;> rfl

theorem visit_silent (place : Place) (index : Nat) (line : List Char) (silent : isSilent line = true) :
    (visit place index line).2.keys = [] ∧
      ((visit place index line).1 = place ∨ (visit place index line).1 = ⟨place.levels, none⟩) := by
  have shape : lineShape line = .plain none := by rw [lineShape, silent_lead line silent]
  obtain ⟨next, keys⟩ := visit_shape place index line
  rw [next, keys]
  unfold shapeOf
  cases place.block with
  | none =>
      simp only [Option.map_none, shape]
      exact ⟨rfl, .inr rfl⟩
  | some inside =>
      simp only [Option.map_some]
      split
      · exact ⟨rfl, .inl rfl⟩
      · rw [shape]
        exact ⟨rfl, .inr rfl⟩

theorem visit_row (place : Place) (index : Nat) (row : Row) (trail : List Char) (shape : Shape) (text : IsRowText row.text)
    (behind : Trail trail) (here : RowShape row shape) (closes : Closes row.column place.block) :
    (visit place index (rowLine row.column row.text trail)).1 = shape.place ⟨place.levels, none⟩ ∧
      (visit place index (rowLine row.column row.text trail)).2.keys = shape.keys index place.levels := by
  have outer := visit_line_shape ⟨place.levels, none⟩ index (rowLine row.column row.text trail)
  rw [here trail behind] at outer
  have same : visit place index (rowLine row.column row.text trail) = visitLine place.levels index (rowLine row.column row.text trail) := by
    have inked : Text.allBlank (rowLine row.column row.text trail) = false := by
      obtain ⟨c, rest, split, visible⟩ := trimmed_head row.text (row_text_legible row.text text).trimmed
      simp [rowLine, Text.allBlank, split, visible]
    unfold visit
    cases block : place.block with
    | none => rfl
    | some inside =>
        have shallow : ¬ inside.column < indentOf (rowLine row.column row.text trail) := by
          rw [row_indent row.column row.text trail text]
          exact Nat.not_lt.mpr (closes inside block)
        simp only [inked, Bool.false_eq_true, if_false, shallow]
  rw [same]
  exact outer

theorem body_sites (place : Place) (index : Nat) (body lines : Lines) (inside : ∀ line ∈ body, IsBodyOf place.block line) :
    (sitesFrom place index (body ++ lines)).keys = (sitesFrom place (index + body.length) lines).keys := by
  induction body generalizing index with
  | nil => rfl
  | cons line body ih =>
      obtain ⟨⟨block, found, here⟩, others⟩ := List.forall_mem_cons.mp inside
      have stay : shapeOf (place.block.map OpenBlock.column) line = .stay := by
        rw [found]
        unfold shapeOf
        rcases here with rfl | deep
        · rfl
        · simp [deep]
      obtain ⟨next, keys⟩ := visit_shape place index line
      rw [stay] at next keys
      rw [List.cons_append, sites_from_keys, next, keys, List.length_cons, ← Nat.add_assoc, Nat.add_right_comm]
      exact ih (index + 1) others

theorem scanned_laid_out {place last : Place} {rows : List Row} {paths : List KeyPath} {lines : List (List Char)}
    (index : Nat) (scanned : Scanned place rows last paths) (laid : LaidOut rows lines) (are : ∀ row ∈ rows, IsRow row) :
    (sitesFrom place index lines).keys.map KeySite.path = paths := by
  induction laid generalizing place last paths index with
  | nil =>
      cases scanned
      rfl
  | filler line lines filler _ ih =>
      obtain ⟨keys, same | closed⟩ := visit_silent place index line filler.silent
      · rw [sites_from_keys, same, keys]
        exact ih (index + 1) scanned are
      · obtain ⟨end_place, scanned⟩ := scanned_closed scanned
        rw [sites_from_keys, closed, keys]
        exact ih (index + 1) scanned are
  | @row row rows trail lines behind _ _ _ ih =>
      obtain ⟨is, others⟩ := List.forall_mem_cons.mp are
      cases scanned with
      | cons shape here closes body scanned =>
          obtain ⟨next, keys⟩ := visit_row place index row trail shape is.text behind here closes
          change (sitesFrom _ index (rowLine row.column row.text trail :: (row.body ++ lines))).keys.map KeySite.path = _
          rw [sites_from_keys, next, keys, body_sites _ _ row.body lines body, List.map_append, shape_paths shape index 0,
            ih _ scanned others]

/-! ## Rows of a value -/

theorem closes_mono (column deeper : Nat) (block : Option OpenBlock) (deep : column ≤ deeper) (closes : Closes deeper block) :
    Closes column block := fun inside member => Nat.le_trans deep (closes inside member)

-- What is open behind an entry.
def entryBlock (base : Levels) (column : Nat) (key : String) (opens : Bool) : Option OpenBlock :=
  if opens then some ⟨column, entryIsExpression base column key⟩ else none

theorem entry_block_closes (base : Levels) (column : Nat) (key : String) (opens : Bool) :
    Closes column (entryBlock base column key opens) := by
  cases opens with
  | false => nofun
  | true =>
      intro inside member
      obtain rfl := Option.some.inj member
      exact Nat.le_refl column

section Steps

variable {column : Nat} {base extra : Levels} {block : Option OpenBlock} {key : String} {value : Value} {text : List Char}
  {body : List (List Char)} {opens : Bool} (closes : Closes column block)

include closes

theorem entry_row_scanned (named : isWrittenKey key.toList = true) (stands : Stands text opens)
    (inside : ∀ line ∈ body, opens = true ∧ (line = [] ∨ column < indentOf line))
    (inner : ∀ level ∈ extra, endsAtEntry column level = true) (outer : ∀ level ∈ base.head?, endsAtEntry column level = false) :
    Scanned ⟨extra ++ base, block⟩ [⟨column, entryText key text, body⟩]
      ⟨(column, .key key) :: base, entryBlock base column key opens⟩ [(key, base.map Prod.snd)] := by
  have kept : aboveEntry column (extra ++ base) = base := ended_levels (endsAtEntry column) extra base inner outer
  have alone : aboveEntry column base = base := ended_levels (endsAtEntry column) [] base (by simp) outer
  have placed : Shape.place (.entry none column key opens) ⟨extra ++ base, none⟩ =
      ⟨(column, .key key) :: base, entryBlock base column key opens⟩ := by
    simp [Shape.place, entryPlace, levelsBelow, entryBlock, entryIsExpression, kept, alone]
  have held : ∀ line ∈ body, IsBodyOf (Shape.place (.entry none column key opens) ⟨extra ++ base, none⟩).block line := by
    intro line member
    obtain ⟨rfl, deep⟩ := inside line member
    rw [placed]
    exact ⟨_, rfl, deep⟩
  have scanned := @Scanned.cons ⟨extra ++ base, block⟩ _ _ _ _ _ (entry_row_shape column key text body opens named stands) closes held .nil
  rw [placed] at scanned
  simpa [Shape.keys, entrySite, KeySite.path, levelsBelow, kept] using scanned

theorem item_row_scanned (inline : Inline value text) (inner : ∀ level ∈ extra, endsAtItem column level = true)
    (outer : ∀ level ∈ base.head?, endsAtItem column level = false) :
    Scanned ⟨extra ++ base, block⟩ [⟨column, itemText text, []⟩] ⟨(column, .item) :: base, none⟩ [] := by
  have kept : aboveItem column (extra ++ base) = base := ended_levels (endsAtItem column) extra base inner outer
  have placed : Shape.place (.plain (some column)) ⟨extra ++ base, none⟩ = ⟨(column, .item) :: base, none⟩ := by
    simp [Shape.place, levelsBelow, kept]
  have scanned := @Scanned.cons ⟨extra ++ base, block⟩ _ _ _ _ _ (item_row_shape column value text inline) closes (List.forall_mem_nil _) .nil
  rw [placed] at scanned
  exact scanned

theorem dashed_row_scanned {last : Place} {rows : List Row} {paths : List KeyPath} (named : isWrittenKey key.toList = true)
    (stands : Stands text opens) (inner : ∀ level ∈ extra, endsAtItem column level = true)
    (outer : ∀ level ∈ base.head?, endsAtItem column level = false)
    (scanned : Scanned ⟨(column, .item) :: base, none⟩ (⟨column + 2, entryText key text, body⟩ :: rows) last paths) :
    Scanned ⟨extra ++ base, block⟩ (⟨column, itemText (entryText key text), body⟩ :: rows) last paths := by
  have kept : aboveItem column (extra ++ base) = base := ended_levels (endsAtItem column) extra base inner outer
  cases scanned with
  | cons shape here _ held scanned =>
      obtain rfl := row_shape_unique _ _ _ here (entry_row_shape (column + 2) key text body opens named stands)
      have placed : Shape.place (.entry (some column) (column + 2) key opens) ⟨extra ++ base, none⟩ =
          Shape.place (.entry none (column + 2) key opens) ⟨(column, .item) :: base, none⟩ := by
        simp [Shape.place, levelsBelow, kept]
      rw [← placed] at held scanned
      have below := @Scanned.cons ⟨extra ++ base, block⟩ _ _ _ _ _ (item_entry_shape column key text body opens named stands) closes held scanned
      simpa [Shape.keys, levelsBelow, kept] using below

end Steps

theorem text_body_deep (lines : List (List Char)) (column deeper : Nat) (deep : column < deeper) :
    ∀ line ∈ lines.map (indented deeper), true = true ∧ (line = [] ∨ column < indentOf line) := by
  refine List.forall_mem_map.mpr fun line _ => ⟨rfl, ?_⟩
  unfold indented
  split
  · exact .inl rfl
  · right
    rw [indentOf, List.takeWhile_append_of_pos (by simp), List.length_append, List.length_replicate]
    exact Nat.lt_of_lt_of_le deep (Nat.le_add_right deeper _)

theorem entries_rows_entry (column : Nat) (entries : Entries) (row : Row) (rows : List Row)
    (written : EntriesRows column entries (row :: rows)) : ∃ key text body opens, isWrittenKey key.toList = true ∧
      Stands text opens ∧ row = ⟨column, entryText key text, body⟩ := by
  generalize split : row :: rows = all at written
  cases written with
  | nil => cases split
  | cons here more named entry _ =>
      cases entry with
      | inline text inline =>
          cases split
          exact ⟨_, text, [], false, named, stands_inline _ text inline, rfl⟩
      | text mark lines deeper _ text =>
          cases split
          exact ⟨_, mark, _, true, named, stands_mark _ mark lines text, rfl⟩
      | nested deeper below _ _ =>
          cases split
          exact ⟨_, [], [], false, named, stands_inline .null [] .null, rfl⟩
      | level below _ _ =>
          cases split
          exact ⟨_, [], [], false, named, stands_inline .null [] .null, rfl⟩

mutual

theorem block_scanned {column : Nat} {value : Value} {rows : List Row} : BlockRows column value rows → ListsApart value →
    ∀ (base : Levels) (block : Option OpenBlock), Closes column block → (∀ level ∈ base.head?, endsAtEntry column level = false) →
      ∃ deeper behind, (∀ level ∈ deeper, endsAtEntry column level = true) ∧ Closes column behind ∧
        Scanned ⟨base, block⟩ rows ⟨deeper ++ base, behind⟩ (keyPaths (base.map Prod.snd) value)
  | .map _ written => fun apart base block closes outer => entries_scanned written apart base [] block closes outer (by simp)
  | .list _ written => by
      have items := items_scanned written
      intro apart base block closes outer
      have outer_item : ∀ level ∈ base.head?, endsAtItem column level = false := fun level member => by
        cases ends : endsAtItem column level with
        | false => rfl
        | true => exact absurd (ends_at_entry column level ends) (by simp [outer level member])
      obtain ⟨deeper, behind, inner, still, scanned⟩ := items apart base [] block closes outer_item (by simp)
      exact ⟨deeper, behind, fun level member => ends_at_entry column level (inner level member), still, scanned⟩

theorem entries_scanned {column : Nat} {entries : Entries} {rows : List Row} : EntriesRows column entries rows →
    EntriesApart entries → ∀ (base extra : Levels) (block : Option OpenBlock), Closes column block →
      (∀ level ∈ base.head?, endsAtEntry column level = false) → (∀ level ∈ extra, endsAtEntry column level = true) →
      ∃ deeper behind, (∀ level ∈ deeper, endsAtEntry column level = true) ∧ Closes column behind ∧
        Scanned ⟨extra ++ base, block⟩ rows ⟨deeper ++ base, behind⟩ (entryPaths (base.map Prod.snd) entries)
  | .nil => fun _ base extra block closes _ inner => ⟨extra, block, inner, closes, .nil⟩
  | .cons rows more named entry later => by
      have here := entry_scanned entry named
      have onward := entries_scanned later
      rintro ⟨apart, others⟩ base extra block closes outer inner
      obtain ⟨between, open_block, same, still, front⟩ := here apart base extra block closes outer inner
      obtain ⟨deeper, behind, last, ends, back⟩ := onward others base between open_block still outer same
      exact ⟨deeper, behind, last, ends, scanned_append front back⟩

theorem entry_scanned {column : Nat} {key : String} {value : Value} {rows : List Row} : EntryRows column key value rows →
    isWrittenKey key.toList = true → ListsApart value → ∀ (base extra : Levels) (block : Option OpenBlock), Closes column block →
      (∀ level ∈ base.head?, endsAtEntry column level = false) → (∀ level ∈ extra, endsAtEntry column level = true) →
      ∃ deeper behind, (∀ level ∈ deeper, endsAtEntry column level = true) ∧ Closes column behind ∧
        Scanned ⟨extra ++ base, block⟩ rows ⟨deeper ++ base, behind⟩
          ((key, base.map Prod.snd) :: keyPaths (.key key :: base.map Prod.snd) value)
  | .inline text inline => by
      intro named _ base extra block closes outer inner
      have no_keys := inline_no_keys value text inline
      refine ⟨[(column, .key key)], none, by simp [endsAtEntry], nofun, ?_⟩
      rw [no_keys]
      exact entry_row_scanned closes named (stands_inline value text inline) (List.forall_mem_nil _) inner outer
  | .text mark lines deeper deep text => by
      intro named _ base extra block closes outer inner
      refine ⟨[(column, .key key)], entryBlock base column key true, by simp [endsAtEntry], entry_block_closes base column key true, ?_⟩
      exact entry_row_scanned closes named (stands_mark _ mark lines text) (text_body_deep lines column deeper deep) inner outer
  | .nested deeper rows deep written => by
      have below := block_scanned written
      intro named apart base extra block closes outer inner
      obtain ⟨more, behind, ends, still, scanned⟩ :=
        below apart ((column, .key key) :: base) none nofun (by simpa [endsAtEntry] using deep)
      refine ⟨more ++ [(column, .key key)], behind, ?_, closes_mono column deeper behind (Nat.le_of_lt deep) still, ?_⟩
      · refine List.forall_mem_append.mpr ⟨fun level member => ?_, by simp [endsAtEntry]⟩
        exact ends_at_entry column level (ends_deeper column deeper level deep (ends level member))
      · rw [List.append_assoc]
        have first := entry_row_scanned closes named (stands_inline .null [] .null) (List.forall_mem_nil _) inner outer
        exact scanned_append first scanned
  | .level rows _ written => by
      have below := items_scanned written
      intro named apart base extra block closes outer inner
      obtain ⟨more, behind, ends, still, scanned⟩ :=
        below apart ((column, .key key) :: base) [] none nofun (by simp [endsAtItem]) (by simp)
      refine ⟨more ++ [(column, .key key)], behind, ?_, still, ?_⟩
      · refine List.forall_mem_append.mpr ⟨fun level member => ?_, by simp [endsAtEntry]⟩
        exact ends_at_entry column level (ends level member)
      · rw [List.append_assoc]
        have first := entry_row_scanned closes named (stands_inline .null [] .null) (List.forall_mem_nil _) inner outer
        exact scanned_append first scanned

theorem items_scanned {column : Nat} {items : List Value} {rows : List Row} : ItemsRows column items rows →
    ItemsApart items → ∀ (base extra : Levels) (block : Option OpenBlock), Closes column block →
      (∀ level ∈ base.head?, endsAtItem column level = false) → (∀ level ∈ extra, endsAtItem column level = true) →
      ∃ deeper behind, (∀ level ∈ deeper, endsAtItem column level = true) ∧ Closes column behind ∧
        Scanned ⟨extra ++ base, block⟩ rows ⟨deeper ++ base, behind⟩ (itemPaths (base.map Prod.snd) items)
  | .nil => fun _ base extra block closes _ inner => ⟨extra, block, inner, closes, .nil⟩
  | .cons rows more item later => by
      have here := item_scanned item
      have onward := items_scanned later
      rintro ⟨no_list, apart, others⟩ base extra block closes outer inner
      obtain ⟨between, open_block, same, still, front⟩ := here no_list apart base extra block closes outer inner
      obtain ⟨deeper, behind, last, ends, back⟩ := onward others base between open_block still outer same
      exact ⟨deeper, behind, last, ends, scanned_append front back⟩

theorem item_scanned {column : Nat} {item : Value} {rows : List Row} : ItemRows column item rows →
    item.items? = none → ListsApart item → ∀ (base extra : Levels) (block : Option OpenBlock), Closes column block →
      (∀ level ∈ base.head?, endsAtItem column level = false) → (∀ level ∈ extra, endsAtItem column level = true) →
      ∃ deeper behind, (∀ level ∈ deeper, endsAtItem column level = true) ∧ Closes column behind ∧
        Scanned ⟨extra ++ base, block⟩ rows ⟨deeper ++ base, behind⟩ (keyPaths (.item :: base.map Prod.snd) item)
  | .inline text inline => by
      intro _ _ base extra block closes outer inner
      have no_keys := inline_no_keys item text inline
      refine ⟨[(column, .item)], none, by simp [endsAtItem], nofun, ?_⟩
      rw [no_keys]
      exact item_row_scanned closes inline inner outer
  | .inPlace text body rows written => by
      have below := block_scanned written
      intro no_list apart base extra block closes outer inner
      obtain ⟨more, behind, ends, still, scanned⟩ := below apart ((column, .item) :: base) none nofun (by simp [endsAtEntry])
      refine ⟨more ++ [(column, .item)], behind, ?_, closes_mono column (column + 2) behind (Nat.le_add_right _ _) still, ?_⟩
      · refine List.forall_mem_append.mpr ⟨fun level member => ?_, by simp [endsAtItem]⟩
        exact ends_deeper column (column + 2) level (by omega) (ends level member)
      · cases written with
        | list _ _ => cases no_list
        | map _ written =>
            obtain ⟨key, said, _, opens, named, stands, same⟩ := entries_rows_entry (column + 2) _ _ rows written
            cases same
            rw [List.append_assoc]
            exact dashed_row_scanned closes named stands inner outer scanned

end

end PipelineLint.Document

namespace PipelineLint

open Document Repair

theorem laid_out_paths (column : Nat) (value : Value) (rows : List Row) (lines : List (List Char))
    (written : BlockRows column value rows) (laid : LaidOut rows lines) (apart : ListsApart value) :
    (sites (Text.splitFeeds (Text.joinFeeds lines))).keys.map KeySite.path = keyPaths [] value := by
  have are := written_are_lines column value rows lines written laid
  obtain ⟨deeper, behind, -, -, scanned⟩ := block_scanned written apart [] none nofun (by simp)
  rw [split_join_feeds lines are]
  exact scanned_laid_out 0 scanned laid (block_rows_are written)

-- A document in block style is read as its value, and a look at its lines finds the keys of this value, in order, each
-- below the keys and items that enclose it.
theorem written_key_paths (value : Value) (writable : Writable value) (parts : HasParts value) (apart : ListsApart value)
    (column : Nat) :
    (∃ rows lines, BlockRows column value rows ∧ LaidOut rows lines) ∧
      ∀ rows lines, BlockRows column value rows → LaidOut rows lines →
        readDocument (String.ofList (Text.joinFeeds lines)) = .ok value ∧
          (sites (Text.splitFeeds (String.ofList (Text.joinFeeds lines)).toList)).keys.map KeySite.path = keyPaths [] value := by
  constructor
  · obtain ⟨rows, written⟩ := parts_written value writable parts column
    obtain ⟨lines, laid⟩ := block_laid_out column value rows written
    exact ⟨rows, lines, written, laid⟩
  · intro rows lines written laid
    rw [readDocument, String.toList_ofList]
    refine ⟨?_, laid_out_paths column value rows lines written laid apart⟩
    rw [laid_out_value column value rows lines written laid, writable_merged value writable]

def nestedTry : Value :=
  .map [(.str "pipeline", .map [(.str "processors", .list [.map [(.str "try", .list [.map [(.str "log", .null)]])], .null])])]

theorem written_key_paths_nested : Writable nestedTry ∧ HasParts nestedTry ∧ ListsApart nestedTry ∧
    (sites (Text.splitFeeds "pipeline:\n  processors:\n  - try: # once\n    - log:\n\n  -\n".toList)).keys.map KeySite.path =
      [("pipeline", []), ("processors", [.key "pipeline"]), ("try", [.item, .key "processors", .key "pipeline"]),
        ("log", [.item, .key "try", .item, .key "processors", .key "pipeline"])] := by
  have null : Writable .null := .inline _ _ .null
  have tried : Writable (.map [(.str "try", .list [.map [(.str "log", .null)]])]) :=
    single_writable _ _ (by decide) (.list _ (List.forall_mem_singleton.mpr (single_writable _ _ (by decide) null)) (by simp))
  have writable : Writable nestedTry :=
    single_writable _ _ (by decide) (single_writable _ _ (by decide)
      (.list _ (List.forall_mem_cons.mpr ⟨tried, List.forall_mem_singleton.mpr null⟩) (by simp)))
  have parts : HasParts nestedTry := List.cons_ne_nil _ _
  have apart : ListsApart nestedTry := by
    simp [nestedTry, ListsApart, ItemsApart, EntriesApart, Value.items?]
  refine ⟨writable, parts, apart, ?_⟩
  have items : ItemsRows 4 [.map [(.str "log", .null)]] [⟨4, itemText (entryText "log" []), []⟩] :=
    .cons [_] [] (.inPlace _ [] [] (.map (by simp) (.cons [_] [] (by decide) (.inline [] .null) .nil))) .nil
  have tried_rows : BlockRows 4 (.map [(.str "try", .list [.map [(.str "log", .null)]])])
      [⟨4, entryText "try" [], []⟩, ⟨4, itemText (entryText "log" []), []⟩] :=
    .map (by simp) (.cons [_, _] [] (by decide) (.level [_] (by simp) items) .nil)
  have rows : BlockRows 0 nestedTry [⟨0, entryText "pipeline" [], []⟩, ⟨2, entryText "processors" [], []⟩,
      ⟨2, itemText (entryText "try" []), []⟩, ⟨4, itemText (entryText "log" []), []⟩, ⟨2, itemText [], []⟩] :=
    .map (by simp) (.cons [_, _, _, _, _] [] (by decide) (.nested 2 [_, _, _, _] (by decide)
      (.map (by simp) (.cons [_, _, _, _] [] (by decide) (.level [_, _, _] (by simp)
        (.cons [_, _] [_] (.inPlace _ [] [_] tried_rows) (.cons [_] [] (.inline [] .null) .nil))) .nil))) .nil)
  have paths := ((written_key_paths nestedTry writable parts apart 0).2 _ _ rows
    (.row [] _ .none rfl (.inl rfl) (.row [] _ .none rfl (.inl rfl) (.row _ _ (.comment 0 " once".toList) (by decide) (.inl rfl)
      (.row [] _ .none rfl (.inl rfl) (.filler [] _ ⟨rfl, rfl⟩ (.row [] _ .none rfl (.inl rfl) (.filler [] _ ⟨rfl, rfl⟩ .nil)))))))).2
  refine (congrArg (fun text => (sites (Text.splitFeeds (String.toList text))).keys.map KeySite.path) ?_).trans paths
  decide

end PipelineLint
