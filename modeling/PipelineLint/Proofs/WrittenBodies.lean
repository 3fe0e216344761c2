import PipelineLint.Proofs.WrittenScalars

set_option autoImplicit false

namespace PipelineLint.Document

theorem line_of_flat (line : List Char) (flat : ∀ c ∈ line, isFlat c = true) :
    Line.ofText line = ⟨(line.takeWhile (· = ' ')).length, line.dropWhile (· = ' ')⟩ := by
  have expanded := flat_expanded Line.tabWidth 0 line [] flat
  rw [List.append_nil, Text.expandTabs, List.append_nil] at expanded
  rw [Line.ofText, expanded]

theorem indented_line (depth : Nat) (line : List Char) (flat : ∀ c ∈ line, isFlat c = true) :
    Line.ofText (List.replicate depth ' ' ++ line) =
      ⟨depth + (line.takeWhile (· = ' ')).length, line.dropWhile (· = ' ')⟩ := by
  have all : ∀ c ∈ List.replicate depth ' ' ++ line, isFlat c = true := by
    intro c member
    rcases List.mem_append.mp member with space | inside
    · rw [List.eq_of_mem_replicate space]
      decide
    · exact flat c inside
  have spaces : ∀ c ∈ List.replicate depth ' ', decide (c = ' ') = true := fun c member =>
    decide_eq_true (List.eq_of_mem_replicate member)
  rw [line_of_flat _ all, List.takeWhile_append_of_pos spaces, List.dropWhile_append_of_pos spaces, List.length_append,
    List.length_replicate]

theorem line_columns (depth : Nat) (line : List Char) :
    (Line.mk (depth + (line.takeWhile (· = ' ')).length) (line.dropWhile (· = ' '))).dropColumns depth = line := by
  have spaces : List.replicate (line.takeWhile (· = ' ')).length ' ' = line.takeWhile (· = ' ') :=
    (List.eq_replicate_of_mem (spaces_of_run line)).symm
  rw [Line.dropColumns, Nat.add_sub_cancel_left, spaces, Nat.sub_eq_zero_of_le (Nat.le_add_right _ _), List.drop_zero,
    List.takeWhile_append_dropWhile]

theorem line_not_blank (indent : Nat) (line : List Char) (ink : ∃ c ∈ line, Text.isBlank c = false) :
    (Line.mk indent (line.dropWhile (· = ' '))).isBlank = false := by
  obtain ⟨c, member, visible⟩ := ink
  have inside : c ∈ line.dropWhile (· = ' ') := by
    rcases List.mem_append.mp (List.takeWhile_append_dropWhile (p := fun d => decide (d = ' ')) (l := line) ▸ member) with space | behind
    · rw [spaces_of_run line c space] at visible
      cases visible
    · exact behind
  exact decide_eq_false (trim_ink _ c inside visible)

theorem take_body_lines (parent depth : Nat) (lines : List (List Char)) (tail : List Line)
    (flat : ∀ line ∈ lines, ∀ c ∈ line, isFlat c = true)
    (ink : ∀ line ∈ lines, line ≠ [] → ∃ c ∈ line, Text.isBlank c = false) :
    takeBody parent (some depth) ((lines.map (indented depth)).map Line.ofText ++ tail) =
      (lines ++ (takeBody parent (some depth) tail).1, (takeBody parent (some depth) tail).2) := by
  induction lines with
  | nil => rfl
  | cons line lines ih =>
      obtain ⟨flat_here, flat_others⟩ := List.forall_mem_cons.mp flat
      obtain ⟨ink_here, ink_others⟩ := List.forall_mem_cons.mp ink
      have others := ih flat_others ink_others
      rw [List.map_cons, List.map_cons, List.cons_append, takeBody]
      by_cases empty : line = []
      · subst empty
        have blank : (Line.ofText (indented depth [])).isBlank = true := rfl
        rw [if_pos blank, others]
        rfl
      · rw [indented, if_neg empty, indented_line depth line flat_here, line_not_blank _ line (ink_here empty)]
        simp only [Bool.false_eq_true, if_false, Nat.not_lt.mpr (Nat.le_add_right depth _), line_columns, others,
          List.cons_append]

section Body

variable {parent depth : Nat} (deeper : parent < depth)

include deeper

theorem take_body_first (c : Char) (rest : List Char) (more : List Line)
    (flat : ∀ d ∈ c :: rest, isFlat d = true) (ink : ∃ d ∈ c :: rest, Text.isBlank d = false) (no_space : c ≠ ' ') :
    takeBody parent none (Line.ofText (indented depth (c :: rest)) :: more) =
      takeBody parent (some depth) (Line.ofText (indented depth (c :: rest)) :: more) := by
  have column : ((c :: rest).takeWhile (· = ' ')).length = 0 := by simp [no_space]
  rw [indented, if_neg (List.cons_ne_nil c rest), indented_line depth _ flat, takeBody, takeBody,
    line_not_blank _ _ ink, column]
  simp only [Bool.false_eq_true, if_false, Nat.add_zero, Nat.not_le.mpr deeper, Nat.lt_irrefl]

theorem take_body_written (lines : List (List Char)) (blanks : Nat) (body : BlockLines lines) (tail : List Line)
    (ends : ∀ line ∈ tail.head?, line.isBlank = false ∧ line.indent ≤ parent) :
    takeBody parent none (((lines ++ List.replicate blanks []).map (indented depth)).map Line.ofText ++ tail) =
      (lines ++ List.replicate blanks [], tail) := by
  obtain ⟨flat, ink, ⟨c, rest, others, rfl, no_space⟩, -⟩ := body
  have flat_blanks : ∀ line ∈ (c :: rest) :: others ++ List.replicate blanks [], ∀ d ∈ line, isFlat d = true := by
    intro line member d inside
    rcases List.mem_append.mp member with held | blank
    · exact flat line held d inside
    · rw [List.eq_of_mem_replicate blank] at inside
      cases inside
  have ink_blanks : ∀ line ∈ (c :: rest) :: others ++ List.replicate blanks [], line ≠ [] →
      ∃ d ∈ line, Text.isBlank d = false := by
    intro line member some_text
    rcases List.mem_append.mp member with held | blank
    · exact ink line held some_text
    · exact absurd (List.eq_of_mem_replicate blank) some_text
  have stops : takeBody parent (some depth) tail = ([], tail) := by
    cases tail with
    | nil => rfl
    | cons line tail =>
        obtain ⟨inked, shallow⟩ := ends line rfl
        rw [takeBody, inked]
        simp [Nat.lt_of_le_of_lt shallow deeper]
  have taken := take_body_lines parent depth _ tail flat_blanks ink_blanks
  rw [stops, List.append_nil] at taken
  rw [← taken]
  exact take_body_first deeper c rest _ (flat _ List.mem_cons_self) (ink _ List.mem_cons_self (List.cons_ne_nil c rest)) no_space

end Body

theorem body_trimmed (lines : List (List Char)) (blanks : Nat) (last : ∃ line ∈ lines.getLast?, line ≠ []) :
    ((lines ++ List.replicate blanks []).reverse.dropWhile (· = [])).reverse = lines := by
  obtain ⟨line, ends, ink⟩ := last
  obtain ⟨front, rfl⟩ := List.getLast?_eq_some_iff.mp ends
  have empties : ∀ blank ∈ List.replicate blanks ([] : List Char), decide (blank = []) = true := fun blank member =>
    decide_eq_true (List.eq_of_mem_replicate member)
  rw [List.reverse_append, List.reverse_replicate, List.dropWhile_append_of_pos empties, List.reverse_append,
    List.reverse_singleton, List.singleton_append, List.dropWhile_cons_of_neg (by simpa using ink), List.reverse_cons,
    List.reverse_reverse]

theorem block_text_written (folds : Bool) (chomp : Chomp) (lines : List (List Char)) (blanks : Nat)
    (last : ∃ line ∈ lines.getLast?, line ≠ []) :
    blockText ⟨folds, chomp, none⟩ (lines ++ List.replicate blanks []) = blockContent folds chomp lines blanks := by
  have some_line : lines ≠ [] := by
    rintro rfl
    obtain ⟨line, ends, -⟩ := last
    cases ends
  simp only [blockText, body_trimmed lines blanks last, if_neg some_line, List.length_append, List.length_replicate,
    Nat.add_sub_cancel_left, blockContent]
  cases chomp with
  | clip => rfl
  | strip => exact (List.append_nil _).symm
  | keep => rfl

theorem shown_shallow (parent : Nat) (rows : List Row) (lines : List Line) (shown : Shown rows lines)
    (significant : lines.head?.all Line.isSignificant = true) (shallow : ∀ row ∈ rows.head?, row.column ≤ parent) :
    ∀ line ∈ lines.head?, line.isBlank = false ∧ line.indent ≤ parent := by
  cases shown with
  | nil => exact fun _ member => nomatch member
  | skip line lines silent _ => simp [silent] at significant
  | row line lines held _ _ =>
      intro next member
      obtain rfl := Option.some.inj member
      refine ⟨?_, held.column ▸ shallow _ rfl⟩
      cases content : line.content with
      | nil => simp [Line.isSignificant, content] at significant
      | cons c rest => simp [Line.isBlank, content]

theorem behind_taken (lines : List (List Char)) (blanks : Nat) (body : BlockLines lines) {parent depth : Nat}
    (deeper : parent < depth) (rows : List Row) (below : List Line) (shallow : ∀ row ∈ rows.head?, row.column ≤ parent)
    (behind : Behind ((lines ++ List.replicate blanks []).map (indented depth)) rows below) :
    (takeBody parent none below).1 = lines ++ List.replicate blanks [] ∧ Shown rows (takeBody parent none below).2 := by
  cases behind with
  | lines tail resumes shown =>
      have some_line : (lines ++ List.replicate blanks []).map (indented depth) ≠ [] := by
        obtain ⟨c, rest, others, rfl, -⟩ := body.first
        simp
      have ends := shown_shallow parent rows tail shown (resumes.resolve_left some_line) shallow
      rw [take_body_written deeper lines blanks body tail ends]
      exact ⟨rfl, shown⟩

theorem read_body (folds : Bool) (chomp : Chomp) (lines : List (List Char)) (blanks : Nat) (body : BlockLines lines)
    {parent depth : Nat} (deeper : parent < depth) (rows : List Row) (said : List Char) (cursor : Cursor)
    (same : Text.trim (stripComment said) = blockMark folds :: chomp.mark) (shallow : ∀ row ∈ rows.head?, row.column ≤ parent)
    (behind : Behind ((lines ++ List.replicate blanks []).map (indented depth)) rows cursor.lines) :
    Reads (readValue said parent cursor) (.str (String.ofList (blockContent folds chomp lines blanks))) rows := by
  have header : blockHeader? (blockMark folds :: chomp.mark) = some ⟨folds, chomp, none⟩ := by
    cases folds <;> cases chomp <;> decide
  obtain ⟨taken, shown⟩ := behind_taken lines blanks body deeper rows cursor.lines shallow behind
  have text : blockText ⟨folds, chomp, none⟩ (takeBody parent none cursor.lines).1 = blockContent folds chomp lines blanks := by
    rw [taken]
    exact block_text_written folds chomp lines blanks body.last
  unfold Reads
  rw [readValue]
  simp only [same, if_neg (List.cons_ne_nil _ _), readScalar, header]
  refine ⟨After.moved cursor (takeBody_suffix parent none cursor.lines), ?_, shown⟩
  rw [← text]
  rfl

theorem read_block_text (s : String) (mark : List Char) (lines : List (List Char)) (text : BlockText s mark lines)
    {parent depth : Nat} (deeper : parent < depth) (rows : List Row) (said : List Char) (cursor : Cursor)
    (same : Text.trim (stripComment said) = mark) (shallow : ∀ row ∈ rows.head?, row.column ≤ parent)
    (behind : Behind (lines.map (indented depth)) rows cursor.lines) : Reads (readValue said parent cursor) (.str s) rows := by
  cases text with
  | lines folds chomp lines blanks body _ => exact read_body folds chomp lines blanks body deeper rows said cursor same shallow behind

end PipelineLint.Document
