import Mathlib.Data.List.TakeWhile
import PipelineLint.Proofs.Blocks
import PipelineLint.Proofs.WrittenText

set_option autoImplicit false

namespace PipelineLint.Document

inductive IsRowText : List Char → Prop where
  | entry (key : String) (text : List Char) : isWrittenKey key.toList = true → (text ≠ [] → IsLegible text) →
      IsRowText (entryText key text)
  | item (text : List Char) : (text ≠ [] → IsLegible text) → IsRowText (itemText text)

theorem row_text_legible (text : List Char) (row : IsRowText text) : IsLegible text := by
  cases row with
  | entry key text written legible => exact entry_legible key text written legible
  | item text legible => exact item_legible text legible

theorem trail_cases (trail : List Char) (behind : Trail trail) : trail = [] ∨ ∃ rest, trail = ' ' :: rest := by
  cases behind with
  | none => exact .inl rfl
  | comment width text => exact .inr ⟨_, rfl⟩

theorem row_text_start (text trail : List Char) (row : IsRowText text) (behind : Trail trail) :
    (∃ first rest, text ++ trail = first :: rest ∧ Text.isNameStart first = true) ∨ text ++ trail = ['-'] ∨
      ∃ rest, text ++ trail = '-' :: ' ' :: rest := by
  cases row with
  | entry key text written legible =>
      obtain ⟨first, rest, split, starts, -⟩ := written_key_letters key.toList written
      exact .inl ⟨first, _, by rw [entryText, split, List.cons_append, List.cons_append], starts⟩
  | item text legible =>
      refine .inr ?_
      rcases spaced_cases text with ⟨-, nothing⟩ | ⟨-, some_text⟩
      · rw [itemText, nothing]
        rcases trail_cases trail behind with rfl | ⟨rest, rfl⟩
        · exact .inl rfl
        · exact .inr ⟨rest, rfl⟩
      · rw [itemText, some_text]
        exact .inr ⟨text ++ trail, rfl⟩

-- The lines below a row are indented.
structure IsRow (row : Row) : Prop where
  text : IsRowText row.text
  flat : ∀ line ∈ row.body, ∀ c ∈ line, isFlat c = true
  deep : ∀ line ∈ row.body, line.head?.all (· = ' ') = true

theorem bare_row (column : Nat) (text : List Char) (row : IsRowText text) : IsRow ⟨column, text, []⟩ :=
  ⟨row, by simp, by simp⟩

theorem block_text_flat (s : String) (mark : List Char) (lines : List (List Char)) (text : BlockText s mark lines) :
    ∀ line ∈ lines, ∀ c ∈ line, isFlat c = true := by
  cases text with
  | lines folds chomp lines blanks body _ =>
      refine List.forall_mem_append.mpr ⟨body.flat, fun line member => ?_⟩
      rw [List.eq_of_mem_replicate member]
      exact List.forall_mem_nil _

theorem block_text_mark (s : String) (mark : List Char) (lines : List (List Char)) (text : BlockText s mark lines) :
    IsLegible mark := by
  cases text with
  | lines folds chomp lines blanks _ _ => exact block_mark_legible folds chomp

theorem indented_flat (depth : Nat) (line : List Char) (flat : ∀ c ∈ line, isFlat c = true) :
    ∀ c ∈ indented depth line, isFlat c = true := by
  unfold indented
  split
  · exact List.forall_mem_nil _
  · refine List.forall_mem_append.mpr ⟨fun c member => ?_, flat⟩
    rw [List.eq_of_mem_replicate member]
    decide

theorem indented_deep (depth : Nat) (line : List Char) (deeper : 0 < depth) : (indented depth line).head?.all (· = ' ') = true := by
  obtain ⟨depth, rfl⟩ := Nat.exists_eq_add_of_lt deeper
  unfold indented
  split <;> simp [List.replicate_succ]

theorem trim_left_blanks (blanks text : List Char) (blank : ∀ c ∈ blanks, Text.isBlank c = true) :
    Text.trimLeft (blanks ++ text) = Text.trimLeft text := by
  unfold Text.trimLeft
  rw [List.dropWhile_append_of_pos blank]

theorem row_not_silent (column : Nat) (text trail : List Char) (row : IsRowText text) (behind : Trail trail) :
    isSilent (List.replicate column ' ' ++ (text ++ trail)) = false := by
  rw [isSilent, trim_left_blanks _ _ (Text.spaces_blank column), trimmed_left text trail (row_text_legible text row).trimmed]
  rcases row_text_start text trail row behind with ⟨first, rest, split, starts⟩ | split | ⟨rest, split⟩ <;> rw [split]
  · simp [Text.name_start_ne first '#' starts (by decide)]
  · rfl
  · rfl

mutual

theorem block_rows_are {column : Nat} {value : Value} {rows : List Row} :
    BlockRows column value rows → ∀ row ∈ rows, IsRow row
  | .map _ entries => entries_rows_are entries
  | .list _ items => items_rows_are items

theorem entries_rows_are {column : Nat} {entries : Entries} {rows : List Row} :
    EntriesRows column entries rows → ∀ row ∈ rows, IsRow row
  | .nil => fun _ member => nomatch member
  | .cons _ _ name entry others => List.forall_mem_append.mpr ⟨entry_rows_are name entry, entries_rows_are others⟩

theorem entry_rows_are {column : Nat} {key : String} {value : Value} {rows : List Row}
    (name : isWrittenKey key.toList = true) :
    EntryRows column key value rows → ∀ row ∈ rows, IsRow row
  | .inline text inline =>
      List.forall_mem_singleton.mpr (bare_row column _ (.entry key text name (inline_legible value text inline)))
  | .text mark lines deeper deep text => by
      refine List.forall_mem_singleton.mpr ⟨.entry key mark name fun _ => block_text_mark _ mark lines text, ?_, ?_⟩
      · exact List.forall_mem_map.mpr fun line member => indented_flat deeper line (block_text_flat _ mark lines text line member)
      · exact List.forall_mem_map.mpr fun line _ => indented_deep deeper line (Nat.zero_lt_of_lt deep)
  | .nested _ _ _ below => List.forall_mem_cons.mpr ⟨bare_row column _ (.entry key [] name (by simp)), block_rows_are below⟩
  | .level _ _ below => List.forall_mem_cons.mpr ⟨bare_row column _ (.entry key [] name (by simp)), items_rows_are below⟩

theorem items_rows_are {column : Nat} {items : List Value} {rows : List Row} :
    ItemsRows column items rows → ∀ row ∈ rows, IsRow row
  | .nil => fun _ member => nomatch member
  | .cons _ _ item others => List.forall_mem_append.mpr ⟨item_rows_are item, items_rows_are others⟩

theorem item_rows_are {column : Nat} {value : Value} {rows : List Row} :
    ItemRows column value rows → ∀ row ∈ rows, IsRow row
  | .inline text inline => List.forall_mem_singleton.mpr (bare_row column _ (.item text (inline_legible value text inline)))
  | .inPlace text _ _ below => by
      obtain ⟨first, others⟩ := List.forall_mem_cons.mp (block_rows_are below)
      exact List.forall_mem_cons.mpr ⟨⟨.item text fun _ => row_text_legible text first.text, first.flat, first.deep⟩, others⟩

end

structure Holds (row : Row) (line : Line) : Prop where
  text : IsRowText row.text
  column : line.indent = row.column
  body : ∃ trail, Trail trail ∧ line.body = row.text ++ trail

theorem flat_expanded (width column : Nat) (text rest : List Char) (flat : ∀ c ∈ text, isFlat c = true) :
    Text.expandTabs width column (text ++ rest) = text ++ Text.expandTabs width (column + text.length) rest := by
  induction text generalizing column with
  | nil => rfl
  | cons c text ih =>
      obtain ⟨here, others⟩ := List.forall_mem_cons.mp flat
      have no_tab : c ≠ '\t' := by
        rintro rfl
        cases here
      rw [List.cons_append, Text.expandTabs, if_neg no_tab, ih (column + 1) others, List.length_cons]
      simp only [List.cons_append, Nat.add_assoc, Nat.add_comm 1]

theorem trail_expanded (width column : Nat) (trail : List Char) (behind : Trail trail) :
    Trail (Text.expandTabs width column trail) := by
  cases behind with
  | none => exact .none
  | comment count text =>
      have flat : ∀ c ∈ ' ' :: (List.replicate count ' ' ++ ['#']), isFlat c = true := by
        intro c member
        simp only [List.mem_cons, List.mem_append, List.mem_replicate, List.not_mem_nil, or_false] at member
        rcases member with rfl | ⟨-, rfl⟩ | rfl <;> decide
      have expanded := flat_expanded width column _ text flat
      have shape (rest : List Char) : ' ' :: (List.replicate count ' ' ++ ['#']) ++ rest =
          ' ' :: (List.replicate count ' ' ++ '#' :: rest) := by simp
      rw [shape, shape] at expanded
      rw [expanded]
      exact .comment count _

theorem spaces_taken (count : Nat) (text rest : List Char) (trimmed : IsTrimmed text) :
    (List.replicate count ' ' ++ (text ++ rest)).takeWhile (· = ' ') = List.replicate count ' ' ∧
      (List.replicate count ' ' ++ (text ++ rest)).dropWhile (· = ' ') = text ++ rest := by
  induction count with
  | zero =>
      obtain ⟨first, others, rfl, visible⟩ := trimmed_head text trimmed
      have no_space : first ≠ ' ' := by
        rintro rfl
        cases visible
      simp [no_space]
  | succ count ih => simpa [List.replicate_succ] using ih

theorem laid_line_holds (row : Row) (trail : List Char) (text : IsRowText row.text) (behind : Trail trail) :
    Holds row (Line.ofText (List.replicate row.column ' ' ++ (row.text ++ trail))) := by
  obtain ⟨trimmed, flat, -⟩ := row_text_legible row.text text
  have spaces : ∀ c ∈ List.replicate row.column ' ', isFlat c = true := by
    intro c member
    rw [List.eq_of_mem_replicate member]
    decide
  have expanded : Text.expandTabs Line.tabWidth 0 (List.replicate row.column ' ' ++ (row.text ++ trail)) =
      List.replicate row.column ' ' ++ (row.text ++
        Text.expandTabs Line.tabWidth (0 + row.column + row.text.length) trail) := by
    rw [flat_expanded _ _ _ _ spaces, flat_expanded _ _ _ _ flat, List.length_replicate]
  obtain ⟨front, back⟩ := spaces_taken row.column row.text
    (Text.expandTabs Line.tabWidth (0 + row.column + row.text.length) trail) trimmed
  refine ⟨text, ?_, _, trail_expanded Line.tabWidth (0 + row.column + row.text.length) trail behind, ?_⟩
  · simp only [Line.ofText, expanded, front, List.length_replicate]
  · simp only [Line.ofText, expanded, back]

theorem holds_content (row : Row) (line : Line) (held : Holds row line) :
    ∃ trail, Trail trail ∧ line.content = row.text ++ trail := by
  obtain ⟨text, -, trail, behind, body⟩ := held
  rw [Line.content, body]
  exact content_with_trail row.text trail (row_text_legible row.text text).trimmed behind

theorem start_no_marker (first : Char) (rest : List Char) (starts : Text.isNameStart first = true) :
    isMarker (first :: rest) = false := by
  have no_dash := Text.name_start_ne first '-' starts (by decide)
  have no_dot := Text.name_start_ne first '.' starts (by decide)
  simp [isMarker, startsMark, Ne.symm no_dash, Ne.symm no_dot]

theorem holds_significant (row : Row) (line : Line) (held : Holds row line) : line.isSignificant = true := by
  obtain ⟨short, behind, content⟩ := holds_content row line held
  obtain ⟨text, -, trail, longer, body⟩ := held
  have no_marker : isMarker line.body = false := by
    rw [body]
    rcases row_text_start row.text trail text longer with ⟨first, rest, split, starts⟩ | split | ⟨rest, split⟩ <;> rw [split]
    · exact start_no_marker first rest starts
    · decide
    · simp [isMarker, startsMark]
  rw [Line.isSignificant, content, no_marker]
  rcases row_text_start row.text short text behind with ⟨first, rest, split, starts⟩ | split | ⟨rest, split⟩ <;>
    simp only [split, Bool.and_false, Bool.not_false, Bool.and_true]
  · exact decide_eq_true (Text.name_start_ne first '#' starts (by decide))
  · decide
  · decide

theorem silent_expanded (width column : Nat) (text : List Char) (silent : isSilent text = true) :
    isSilent (Text.expandTabs width column text) = true := by
  induction text generalizing column with
  | nil => rfl
  | cons c text ih =>
      cases blank : Text.isBlank c with
      | true =>
          unfold isSilent at silent ih ⊢
          rw [← List.singleton_append, trim_left_blanks [c] text (by simp [blank])] at silent
          rw [Text.expandTabs]
          split
          · rw [trim_left_blanks _ _ (Text.spaces_blank _)]
            exact ih _ silent
          · rw [← List.singleton_append, trim_left_blanks [c] _ (by simp [blank])]
            exact ih _ silent
      | false =>
          rw [isSilent, trim_left_of_head c text blank, List.head?_cons, Option.all_some, decide_eq_true_eq] at silent
          rw [silent, Text.expandTabs, if_neg (by decide), isSilent, trim_left_of_head _ _ (by decide)]
          rfl

theorem spaces_of_run (text : List Char) : ∀ c ∈ text.takeWhile (· = ' '), c = ' ' := fun c member =>
  of_decide_eq_true (List.all_eq_true.mp List.all_takeWhile c member)

theorem silent_insignificant (line : List Char) (silent : isSilent line = true) :
    (Line.ofText line).isSignificant = false := by
  have flat := silent_expanded Line.tabWidth 0 line silent
  generalize whole : Text.expandTabs Line.tabWidth 0 line = text at flat
  have spaces : ∀ c ∈ text.takeWhile (· = ' '), Text.isBlank c = true := fun c member => by
    rw [spaces_of_run text c member]
    decide
  have left : Text.trimLeft (text.dropWhile (· = ' ')) = Text.trimLeft text := by
    rw [← trim_left_blanks _ _ spaces, List.takeWhile_append_dropWhile]
  rw [isSilent, ← left] at flat
  simp only [Line.isSignificant, Line.ofText, Line.content, Text.trim, whole]
  generalize Text.trimLeft (text.dropWhile (· = ' ')) = inside at flat ⊢
  cases inside with
  | nil => rfl
  | cons c rest =>
      rw [List.head?_cons, Option.all_some, decide_eq_true_eq] at flat
      rw [flat, trim_right_visible '#' rest (by decide)]
      rfl

-- Lines that say some rows in order, with lines in between that say nothing. Behind the body of a row a line says something.
inductive Shown : List Row → List Line → Prop where
  | nil : Shown [] []
  | skip {rows : List Row} (line : Line) (lines : List Line) : line.isSignificant = false → Shown rows lines →
      Shown rows (line :: lines)
  | row {row : Row} {rows : List Row} (line : Line) (lines : List Line) : Holds row line →
      (row.body = [] ∨ lines.head?.all Line.isSignificant = true) → Shown rows lines →
      Shown (row :: rows) (line :: (row.body.map Line.ofText ++ lines))

theorem settle_end (number : Nat) (lines : List Line) (shown : Shown [] lines) :
    ∃ last, settle number lines = ⟨last, []⟩ := by
  induction lines generalizing number with
  | nil => exact ⟨number, rfl⟩
  | cons line lines ih =>
      cases shown with
      | skip _ _ silent shown =>
          rw [settle, if_neg (by simp [silent])]
          exact ih (number + 1) shown

-- The lines behind the one of a row: its body, and what says the rows after it.
inductive Behind (body : List (List Char)) (rows : List Row) : List Line → Prop where
  | lines (lines : List Line) : (body = [] ∨ lines.head?.all Line.isSignificant = true) → Shown rows lines →
      Behind body rows (body.map Line.ofText ++ lines)

theorem behind_bare (rows : List Row) (lines : List Line) (behind : Behind [] rows lines) : Shown rows lines := by
  cases behind with
  | lines _ _ shown => exact shown

theorem settle_row (number : Nat) (row : Row) (rows : List Row) (lines : List Line) (shown : Shown (row :: rows) lines) :
    ∃ next line rest, settle number lines = ⟨next, line :: rest⟩ ∧ Holds row line ∧ Behind row.body rows rest := by
  induction lines generalizing number with
  | nil => cases shown
  | cons line lines ih =>
      cases shown with
      | skip _ _ silent shown =>
          rw [settle, if_neg (by simp [silent])]
          exact ih (number + 1) shown
      | row _ rest held resumes shown =>
          rw [settle, if_pos (holds_significant row line held)]
          exact ⟨number, line, _, rfl, held, .lines rest resumes shown⟩

theorem settle_shown (number : Nat) (rows : List Row) (lines : List Line) (shown : Shown rows lines) :
    Shown rows (settle number lines).lines := by
  induction shown generalizing number with
  | nil => exact .nil
  | skip line lines silent _ ih =>
      rw [settle, if_neg (by simp [silent])]
      exact ih (number + 1)
  | row line lines held resumes shown _ =>
      rw [settle, if_pos (holds_significant _ line held)]
      exact .row line lines held resumes shown

theorem continuation_shown (parent : Nat) (rows : List Row) (lines : List Line) (shown : Shown rows lines)
    (shallow : ∀ row ∈ rows.head?, row.column ≤ parent) :
    (takeContinuation parent lines).1 = [] ∧ Shown rows (takeContinuation parent lines).2 := by
  induction shown with
  | nil => exact ⟨rfl, .nil⟩
  | skip line lines silent _ ih =>
      rw [takeContinuation, if_pos (by simp [silent])]
      exact ih shallow
  | @row row _ line lines held resumes shown _ =>
      have column : line.indent ≤ parent := held.column ▸ shallow row rfl
      rw [takeContinuation, if_neg (by simp [holds_significant row line held]), if_pos (by simp [column])]
      exact ⟨rfl, .row line lines held resumes shown⟩

theorem split_lines_cons (c : Char) (rest : List Char) (inside : Text.isLineBreak c = false) :
    Text.splitLines (c :: rest) = Text.consLine c (Text.splitLines rest) := by
  rw [Text.splitLines, if_neg (by simp [inside])]
  rintro _ rfl
  cases inside

theorem split_lines_line (line rest : List Char) (one_line : line.any Text.isLineBreak = false) :
    Text.splitLines (line ++ '\n' :: rest) = line :: Text.splitLines rest := by
  induction line with
  | nil =>
      rw [List.nil_append, Text.splitLines, if_pos (by decide)]
      simp
  | cons c line ih =>
      rw [List.any_cons, Bool.or_eq_false_iff] at one_line
      rw [List.cons_append, split_lines_cons c _ one_line.1, ih one_line.2]
      rfl

theorem split_lines_last (line : List Char) (one_line : line.any Text.isLineBreak = false) :
    Text.splitLines line = if line = [] then [] else [line] := by
  induction line with
  | nil => rfl
  | cons c line ih =>
      rw [List.any_cons, Bool.or_eq_false_iff] at one_line
      rw [split_lines_cons c _ one_line.1, ih one_line.2, if_neg (List.cons_ne_nil c line)]
      cases line <;> rfl

theorem split_lines_cons_lines (line : List Char) (lines : List (List Char))
    (one_line : line.any Text.isLineBreak = false) :
    Text.splitLines (Text.joinFeeds (line :: lines)) =
      if line = [] ∧ lines = [] then [] else line :: Text.splitLines (Text.joinFeeds lines) := by
  cases lines with
  | nil =>
      rw [Text.joinFeeds_singleton, split_lines_last line one_line]
      simp [Text.joinFeeds, List.intercalate, Text.splitLines]
  | cons next lines =>
      rw [Text.joinFeeds_cons_cons, split_lines_line line _ one_line, if_neg (by simp)]

theorem row_one_line (row : Row) (trail : List Char) (text : IsRowText row.text) (one_line : trail.any Text.isLineBreak = false) :
    (List.replicate row.column ' ' ++ (row.text ++ trail)).any Text.isLineBreak = false := by
  have spaces : (List.replicate row.column ' ').any Text.isLineBreak = false := by
    simp [(by decide : Text.isLineBreak ' ' = false)]
  have inside := flat_one_line row.text (row_text_legible row.text text).flat
  simp only [List.any_append, spaces, inside, one_line, Bool.or_self]

theorem resumes_some (lines : List (List Char)) (resumes : Resumes lines) : lines ≠ [] := by
  rintro rfl
  rcases resumes with ends | speaks
  · cases ends
  · cases speaks

theorem split_lines_body (body lines : List (List Char)) (one_line : ∀ line ∈ body, line.any Text.isLineBreak = false)
    (resumes : body = [] ∨ Resumes lines) :
    Text.splitLines (Text.joinFeeds (body ++ lines)) = body ++ Text.splitLines (Text.joinFeeds lines) := by
  rcases resumes with rfl | resumes
  · rfl
  · induction body with
    | nil => rfl
    | cons line body ih =>
        obtain ⟨here, others⟩ := List.forall_mem_cons.mp one_line
        rw [List.cons_append, split_lines_cons_lines line _ here, if_neg (by simp [resumes_some lines resumes]), ih others,
          List.cons_append]

theorem split_lines_row (row : Row) (trail : List Char) (lines : List (List Char)) (is : IsRow row)
    (one_line : trail.any Text.isLineBreak = false) (resumes : row.body = [] ∨ Resumes lines) :
    Text.splitLines (Text.joinFeeds ((List.replicate row.column ' ' ++ (row.text ++ trail)) :: (row.body ++ lines))) =
      (List.replicate row.column ' ' ++ (row.text ++ trail)) :: (row.body ++ Text.splitLines (Text.joinFeeds lines)) := by
  have ink := (row_text_legible row.text is.text).trimmed.ink
  have body := split_lines_body row.body lines (fun line member => flat_one_line line (is.flat line member)) resumes
  rw [split_lines_cons_lines _ _ (row_one_line row trail is.text one_line), if_neg (by simp [ink]), body]

theorem resumes_significant (rows : List Row) (lines : List (List Char)) (laid : LaidOut rows lines)
    (are : ∀ row ∈ rows, IsRow row) (resumes : Resumes lines) :
    (linesOf (Text.joinFeeds lines)).head?.all Line.isSignificant = true := by
  unfold linesOf
  rcases resumes with rfl | speaks
  · rfl
  · cases laid with
    | nil => cases speaks
    | filler line lines filler _ => simp [filler.silent] at speaks
    | @row row rows trail lines behind one_line resumes _ =>
        have here := are row List.mem_cons_self
        rw [split_lines_row row trail lines here one_line resumes, List.map_cons, List.head?_cons, Option.all_some]
        exact holds_significant row _ (laid_line_holds row trail here.text behind)

theorem laid_out_shown (rows : List Row) (lines : List (List Char)) (laid : LaidOut rows lines)
    (are : ∀ row ∈ rows, IsRow row) : Shown rows (linesOf (Text.joinFeeds lines)) := by
  unfold linesOf
  induction laid with
  | nil => exact .nil
  | filler line lines filler laid ih =>
      rw [split_lines_cons_lines line lines filler.one_line]
      split
      · rename_i last
        rw [last.2] at laid
        cases laid
        exact .nil
      · exact .skip _ _ (silent_insignificant line filler.silent) (ih are)
  | @row row rows trail lines behind one_line resumes laid ih =>
      obtain ⟨here, others⟩ := List.forall_mem_cons.mp are
      rw [split_lines_row row trail lines here one_line resumes, List.map_cons, List.map_append]
      exact .row _ _ (laid_line_holds row trail here.text behind) (resumes.imp_right (resumes_significant rows lines laid others))
        (ih others)

theorem join_feeds_front (line : List Char) (lines : List (List Char)) :
    ∃ rest, Text.joinFeeds (line :: lines) = line ++ rest := by
  cases lines with
  | nil => exact ⟨[], by simp⟩
  | cons next lines => exact ⟨'\n' :: Text.joinFeeds (next :: lines), Text.joinFeeds_cons_cons line next lines⟩

theorem join_feeds_blank (line : List Char) (lines : List (List Char)) (blank : ∀ c ∈ line, Text.isBlank c = true) :
    Text.trimLeft (Text.joinFeeds (line :: lines)) = Text.trimLeft (Text.joinFeeds lines) := by
  cases lines with
  | nil => simpa [Text.joinFeeds, List.intercalate] using trim_left_blanks line [] blank
  | cons next lines =>
      have joined : Text.joinFeeds (line :: next :: lines) = (line ++ ['\n']) ++ Text.joinFeeds (next :: lines) := by
        rw [Text.joinFeeds_cons_cons, List.append_cons]
      rw [joined, trim_left_blanks _ _ (List.forall_mem_append.mpr ⟨blank, by decide⟩)]

theorem laid_out_start (rows : List Row) (lines : List (List Char)) (laid : LaidOut rows lines)
    (are : ∀ row ∈ rows, IsRow row) :
    (Text.trimLeft (Text.joinFeeds lines)).head?.any opensFlow = false := by
  induction laid with
  | nil => rfl
  | filler line lines filler laid ih =>
      have silent := filler.silent
      unfold isSilent at silent
      cases start : Text.trimLeft line with
      | nil =>
          rw [join_feeds_blank line lines (List.dropWhile_eq_nil_iff.mp start)]
          exact ih are
      | cons c rest =>
          obtain ⟨more, joined⟩ := join_feeds_front line lines
          rw [start, List.head?_cons, Option.all_some, decide_eq_true_eq] at silent
          have member : c ∈ line := (List.dropWhile_sublist Text.isBlank).subset (by
            rw [← Text.trimLeft, start]
            exact List.mem_cons_self)
          have dropped := (Text.run_append Text.isBlank line more c member (by rw [silent]; decide)).2
          rw [joined, Text.trimLeft, dropped, ← Text.trimLeft, start, silent]
          rfl
  | @row row rows trail lines behind one_line _ laid ih =>
      have text := (are row List.mem_cons_self).text
      obtain ⟨more, joined⟩ := join_feeds_front (List.replicate row.column ' ' ++ (row.text ++ trail)) (row.body ++ lines)
      rw [joined, List.append_assoc, List.append_assoc, trim_left_blanks _ _ (Text.spaces_blank row.column),
        trimmed_left row.text _ (row_text_legible row.text text).trimmed]
      rcases row_text_start row.text [] text .none with ⟨first, rest, split, starts⟩ | split | ⟨rest, split⟩ <;>
        rw [List.append_nil] at split <;> rw [split]
      · have no_bracket := Text.name_start_ne first '[' starts (by decide)
        have no_brace := Text.name_start_ne first '\x7b' starts (by decide)
        simp [opensFlow, no_bracket, no_brace]
      · rfl
      · rfl

theorem trim_right_start (text : List Char) (passes : Char → Bool) (start : text.head?.any passes = false) :
    (Text.trimRight text).head?.any passes = false := by
  obtain ⟨dropped, split, -⟩ := Text.dropTrailing_append_dropped Text.isBlank text
  unfold Text.trimRight
  cases kept : Text.dropTrailing Text.isBlank text with
  | nil => rfl
  | cons c rest =>
      rw [kept] at split
      rw [split] at start
      exact start

theorem laid_out_read (rows : List Row) (lines : List (List Char)) (laid : LaidOut rows lines)
    (are : ∀ row ∈ rows, IsRow row) :
    readText (Text.joinFeeds lines) = readLines (linesOf (Text.joinFeeds lines)) :=
  read_text_block _ (trim_right_start _ opensFlow (laid_out_start rows lines laid are))

end PipelineLint.Document
