import PipelineLint.Proofs.InlineLines

set_option autoImplicit false

namespace PipelineLint.Document

def blockRows (folded : Bool) (chomp : Chomp) (depth : Nat) (lines : List (List Char)) (blanks : Nat) : List (List Char) :=
  ('k' :: ':' :: ' ' :: blockMark folded :: chomp.mark) :: (lines.map (indented depth) ++ List.replicate blanks [])

def blockDocument (folded : Bool) (chomp : Chomp) (depth : Nat) (lines : List (List Char)) (blanks : Nat) : List Char :=
  Text.joinFeeds (blockRows folded chomp depth lines blanks ++ [['z', ':', ' ', '1']])

-- Lines folded: an empty line is a line feed, and a space stands between two lines that are not empty.
def foldLine : List Char → List Char
  | [] => ['\n']
  | line => line

def foldGap : List Char → List Char → List Char
  | _ :: _, _ :: _ => [' ']
  | _, _ => []

def folded : List (List Char) → List Char
  | [] => []
  | [line] => foldLine line
  | line :: next :: lines => foldLine line ++ (foldGap line next ++ folded (next :: lines))

theorem fold_after_folded (before : List Char) (lines : List (List Char))
    (no_space : ∀ line ∈ before :: lines, startsSpaced line = false) :
    foldLine before ++ foldAfter before lines = folded (before :: lines) := by
  induction lines generalizing before with
  | nil => rw [foldAfter, folded, List.append_nil]
  | cons next lines ih =>
      obtain ⟨here, others⟩ := List.forall_mem_cons.mp no_space
      have plain := others next List.mem_cons_self
      have gap : foldAfter before (next :: lines) = foldGap before next ++ (foldLine next ++ foldAfter next lines) := by
        cases next with
        | nil => cases before <;> rfl
        | cons c rest => cases before <;> simp [foldAfter, foldGap, foldLine, here, plain]
      rw [gap, ih next others, folded]

theorem fold_lines_folded (lines : List (List Char)) (ink : lines.head? ≠ some [])
    (no_space : ∀ line ∈ lines, startsSpaced line = false) : foldLines lines = folded lines := by
  cases lines with
  | nil => rfl
  | cons line lines =>
      rw [← fold_after_folded line lines no_space]
      cases line with
      | nil => exact absurd rfl ink
      | cons c rest => rfl

theorem split_rows (rows : List (List Char)) (last ending : List Char)
    (one_line : ∀ row ∈ rows, row.any Text.isLineBreak = false) :
    Text.splitLines (Text.joinFeeds (rows ++ [last]) ++ ending) = rows ++ Text.splitLines (last ++ ending) := by
  induction rows with
  | nil => rw [List.nil_append, Text.joinFeeds_singleton, List.nil_append]
  | cons row rows ih =>
      obtain ⟨here, others⟩ := List.forall_mem_cons.mp one_line
      have joined : Text.joinFeeds (row :: (rows ++ [last])) = row ++ '\n' :: Text.joinFeeds (rows ++ [last]) := by
        cases rows <;> exact Text.joinFeeds_cons_cons _ _ _
      rw [List.cons_append, joined, List.append_assoc, List.cons_append, split_lines_line row _ here, ih others,
        List.cons_append]

section Document

variable (folds : Bool) (chomp : Chomp) (depth : Nat) (lines : List (List Char)) (blanks : Nat) (body : BlockLines lines)
  (deeper : 0 < depth) (ending : List Char) (closing : ending = [] ∨ ending = ['\n'])

def blockBelow : List Line :=
  (lines.map (indented depth) ++ List.replicate blanks []).map Line.ofText ++ [nextLine]

theorem block_header_alone : Line.ofText ('k' :: ':' :: ' ' :: blockMark folds :: chomp.mark) = aloneLine (blockMark folds :: chomp.mark) := by
  cases folds <;> cases chomp <;> decide

include body closing

theorem block_document_lines : linesOf (blockDocument folds chomp depth lines blanks ++ ending) =
    aloneLine (blockMark folds :: chomp.mark) :: blockBelow depth lines blanks := by
  have header : ('k' :: ':' :: ' ' :: blockMark folds :: chomp.mark).any Text.isLineBreak = false := by
    cases folds <;> cases chomp <;> decide
  have one_line : ∀ row ∈ blockRows folds chomp depth lines blanks, row.any Text.isLineBreak = false := by
    refine List.forall_mem_cons.mpr ⟨header, List.forall_mem_append.mpr ⟨fun row member => ?_, fun row member => ?_⟩⟩
    · obtain ⟨line, held, rfl⟩ := List.mem_map.mp member
      have inside := flat_one_line line (body.flat line held)
      unfold indented
      split
      · rfl
      · simp [inside, (by decide : Text.isLineBreak ' ' = false)]
    · rw [List.eq_of_mem_replicate member]
      rfl
  have last : (Text.splitLines (['z', ':', ' ', '1'] ++ ending)).map Line.ofText = [nextLine] := by
    rcases closing with rfl | rfl <;> decide
  rw [linesOf, blockDocument, split_rows _ _ ending one_line, List.map_append, last, blockRows, List.map_cons,
    block_header_alone, List.cons_append]
  rfl

theorem block_document_read : readText (blockDocument folds chomp depth lines blanks ++ ending) =
    readLines (aloneLine (blockMark folds :: chomp.mark) :: blockBelow depth lines blanks) := by
  rw [← block_document_lines folds chomp depth lines blanks body ending closing]
  obtain ⟨rest, joined⟩ := join_feeds_front ('k' :: ':' :: ' ' :: blockMark folds :: chomp.mark)
    ((lines.map (indented depth) ++ List.replicate blanks []) ++ [['z', ':', ' ', '1']])
  apply read_text_block
  rw [blockDocument, blockRows, List.cons_append, joined, List.cons_append, List.cons_append, Text.trim,
    trim_left_of_head 'k' _ (by decide), trim_right_visible 'k' _ (by decide)]
  rfl

omit closing

include deeper

theorem block_value_read : Reads (readValue (blockMark folds :: chomp.mark) 0 ⟨2, blockBelow depth lines blanks⟩)
    (.str (String.ofList (blockContent folds chomp lines blanks))) [nextRow] := by
  have said : Text.trim (stripComment (blockMark folds :: chomp.mark)) = blockMark folds :: chomp.mark := by
    cases folds <;> cases chomp <;> decide
  have same : lines.map (indented depth) ++ List.replicate blanks [] = (lines ++ List.replicate blanks []).map (indented depth) := by
    simp [indented]
  refine read_body folds chomp lines blanks body deeper [nextRow] _ ⟨2, blockBelow depth lines blanks⟩ said (by decide) ?_
  rw [blockBelow, same]
  exact .lines [nextLine] (.inr rfl) (.row nextLine [] next_row_held (.inl rfl) .nil)

end Document

/-- Lines that are written as a block scalar, in any deeper column, are read as they are: joined by line feeds if the
scalar is literal, folded if it is folded and none of them starts with a space, and with the line feeds behind them that
the header asks for. -/
theorem block_scalars_read (chomp : Chomp) (depth : Nat) (deeper : 0 < depth) (lines : List (List Char)) (body : BlockLines lines)
    (blanks : Nat) (ending : List Char) (closing : ending = [] ∨ ending = ['\n']) :
    readText (blockDocument false chomp depth lines blanks ++ ending) =
        .ok (.map [(.str "k", .str (String.ofList (Text.joinFeeds lines ++ chomp.feeds blanks))), (.str "z", .int 1)]) ∧
      ((∀ line ∈ lines, line.head? ≠ some ' ') →
        readText (blockDocument true chomp depth lines blanks ++ ending) =
          .ok (.map [(.str "k", .str (String.ofList (folded lines ++ chomp.feeds blanks))), (.str "z", .int 1)])) := by
  have read (folds : Bool) : readText (blockDocument folds chomp depth lines blanks ++ ending) = .ok (.map
      [(.str "k", .str (String.ofList (blockContent folds chomp lines blanks))), (.str "z", .int 1)]) := by
    have trimmed : IsTrimmed (blockMark folds :: chomp.mark) :=
      trimmed_of_visible _ (List.cons_ne_nil _ _) (by cases folds <;> cases chomp <;> decide)
    rw [block_document_read folds chomp depth lines blanks body ending closing]
    exact alone_next _ trimmed _ _ (block_value_read folds chomp depth lines blanks body deeper)
  refine ⟨read false, fun no_space => ?_⟩
  have ink : lines.head? ≠ some [] := by
    obtain ⟨c, rest, others, rfl, -⟩ := body.first
    simp
  have same := fold_lines_folded lines ink fun line member => decide_eq_false (no_space line member)
  rw [← same]
  exact read true

def syntaxLines : List (List Char) :=
  [['-', ' ', '#'], [], ['-', '-', '-'], ['z', ':']]

theorem block_scalars_read_syntax : 0 < 2 ∧ BlockLines syntaxLines ∧
    blockDocument true .keep 2 syntaxLines 1 ++ ['\n'] = "k: >+\n  - #\n\n  ---\n  z:\n\nz: 1\n".toList ∧
    readText "k: >+\n  - #\n\n  ---\n  z:\n\nz: 1\n".toList =
      .ok (.map [(.str "k", .str "- #\n--- z:\n\n"), (.str "z", .int 1)]) := by
  have ink : ∀ line ∈ syntaxLines, line ≠ [] → ∃ c ∈ line, Text.isBlank c = false := by
    simp only [syntaxLines, List.forall_mem_cons]
    exact ⟨fun _ => ⟨'-', by decide, by decide⟩, fun empty => absurd rfl empty, fun _ => ⟨'-', by decide, by decide⟩,
      fun _ => ⟨'z', by decide, by decide⟩, fun _ member => nomatch member⟩
  have body : BlockLines syntaxLines := ⟨by decide, ink, ⟨'-', _, _, rfl, by decide⟩, ⟨_, rfl, by decide⟩⟩
  have text : blockDocument true .keep 2 syntaxLines 1 ++ ['\n'] = "k: >+\n  - #\n\n  ---\n  z:\n\nz: 1\n".toList := by
    decide
  have read := (block_scalars_read .keep 2 (by decide) syntaxLines body 1 ['\n'] (.inr rfl)).2 (by decide)
  rw [text] at read
  exact ⟨by decide, body, text, read⟩

end PipelineLint.Document
