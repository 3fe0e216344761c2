import PipelineLint.Proofs.BlockReadings
import PipelineLint.Proofs.LineEndings

set_option autoImplicit false

namespace PipelineLint

namespace Document

def Line.moved (width : Nat) (line : Line) : Line :=
  { line with indent := line.indent + width }

def movedLines (width : Nat) (lines : List Line) : List Line :=
  lines.map (Line.moved width)

def Cursor.moved (width : Nat) (cursor : Cursor) : Cursor :=
  { cursor with lines := movedLines width cursor.lines }

def movedReading (width : Nat) (reading : Reading) : Reading :=
  reading.map fun found => (found.1, found.2.moved width)

-- No line in the first column separates or ends documents: moved to the right, such a line would begin to count.
def Unmarked (lines : List Line) : Prop :=
  ∀ line ∈ lines, line.indent = 0 → isMarker line.body = false

@[simp] theorem moved_content (width : Nat) (line : Line) : (line.moved width).content = line.content := rfl

@[simp] theorem moved_indent (width : Nat) (line : Line) : (line.moved width).indent = line.indent + width := rfl

@[simp] theorem moved_body (width : Nat) (line : Line) : (line.moved width).body = line.body := rfl

theorem unmarked_suffix {lines rest : List Line} (unmarked : Unmarked lines) (suffix : rest <:+ lines) : Unmarked rest :=
  fun line member => unmarked line (suffix.subset member)

theorem moved_significant (width : Nat) (line : Line) (unmarked : line.indent = 0 → isMarker line.body = false) :
    (line.moved width).isSignificant = line.isSignificant := by
  unfold Line.isSignificant
  rw [moved_content, moved_indent, moved_body]
  cases line.content with
  | nil => rfl
  | cons c rest =>
      by_cases first : line.indent = 0
      · simp [unmarked first]
      · simp [first]

theorem moved_settle (width number : Nat) (lines : List Line) (unmarked : Unmarked lines) :
    settle number (movedLines width lines) = (settle number lines).moved width := by
  induction lines generalizing number with
  | nil => rfl
  | cons line rest ih =>
      obtain ⟨here, others⟩ := List.forall_mem_cons.mp unmarked
      rw [movedLines, List.map_cons, settle, settle, moved_significant width line here]
      split
      · rfl
      · exact ih (number + 1) others

theorem moved_after_dash (width : Nat) (line : Line) :
    (line.moved width).afterDash? = line.afterDash?.map (Line.moved width) := by
  unfold Line.afterDash?
  rw [moved_content, moved_indent, moved_body]
  split
  · simp only [Option.map_some, Line.moved, Option.some.injEq, Line.mk.injEq, and_true]
    omega
  · rfl

theorem moved_columns (width column : Nat) (line : Line) :
    (line.moved width).dropColumns (column + width) = line.dropColumns column := by
  unfold Line.dropColumns
  rw [moved_indent, moved_body, Nat.add_sub_add_right, Nat.add_sub_add_right]

theorem moved_body_lines (width parent : Nat) (depth : Option Nat) (lines : List Line) :
    takeBody (parent + width) (depth.map (· + width)) (movedLines width lines) =
      ((takeBody parent depth lines).1, movedLines width (takeBody parent depth lines).2) := by
  induction lines generalizing depth with
  | nil => simp only [movedLines, List.map_nil, takeBody]
  | cons line rest ih =>
      have blank : (line.moved width).isBlank = line.isBlank := rfl
      have unknown := ih none
      have known column := ih (some column)
      simp only [Option.map_none, Option.map_some] at unknown known
      rw [movedLines] at unknown known
      rw [movedLines, List.map_cons]
      simp only [takeBody, blank]
      cases depth with
      | none =>
          simp only [Option.map_none, moved_indent, Nat.add_le_add_iff_right, unknown, known, moved_columns]
          split
          · rfl
          · split <;> rfl
      | some column =>
          simp only [Option.map_some, moved_indent, Nat.add_lt_add_iff_right, known, moved_columns]
          split
          · rfl
          · split <;> rfl

theorem moved_gather (width : Nat) (piece : Line → List Char) (same : ∀ line, piece (line.moved width) = piece line)
    (text : List Char) (lines : List Line) : gather piece text (movedLines width lines) =
      ((gather piece text lines).1, movedLines width (gather piece text lines).2) := by
  induction lines generalizing text with
  | nil => rfl
  | cons line rest ih =>
      rw [movedLines, List.map_cons, gather, gather, same]
      split
      · exact ih _
      · rfl

theorem moved_continuation (width parent : Nat) (lines : List Line) (unmarked : Unmarked lines) :
    takeContinuation (parent + width) (movedLines width lines) =
      ((takeContinuation parent lines).1, movedLines width (takeContinuation parent lines).2) := by
  induction lines with
  | nil => rfl
  | cons line rest ih =>
      obtain ⟨here, others⟩ := List.forall_mem_cons.mp unmarked
      have same := ih others
      rw [movedLines, List.map_cons, takeContinuation, takeContinuation, moved_significant width line here, ← movedLines, same]
      simp only [moved_content, moved_indent, Nat.add_le_add_iff_right]
      split
      · rfl
      · split <;> rfl

theorem moved_move_to (width : Nat) (cursor : Cursor) (rest : List Line) :
    (cursor.moved width).moveTo (movedLines width rest) = (cursor.moveTo rest).moved width := by
  simp only [Cursor.moveTo, Cursor.moved, movedLines, List.length_map]

theorem moved_gathered (width : Nat) (piece : Line → List Char) (finish : List Char → List Char)
    (same : ∀ line, piece (line.moved width) = piece line) (text : List Char) (cursor : Cursor) :
    placed (readGathered piece finish text (cursor.moved width)) = movedReading width (placed (readGathered piece finish text cursor)) := by
  have taken := moved_gather width piece same text cursor.lines
  have lines : (cursor.moved width).lines = movedLines width cursor.lines := rfl
  rw [gathered_reading, gathered_reading, lines, taken]
  simp only
  cases readInline (finish (gather piece text cursor.lines).1) with
  | ok value => simp only [movedReading, Except.map, moved_move_to]
  | error fault => rfl

theorem moved_scalar (width : Nat) (text : List Char) (parent : Nat) (cursor : Cursor) (unmarked : Unmarked cursor.lines) :
    placed (readScalar text (parent + width) (cursor.moved width)) = movedReading width (placed (readScalar text parent cursor)) := by
  rw [scalar_reading, scalar_reading]
  cases blockHeader? text with
  | some header =>
      have body := moved_body_lines width parent (header.depth.map (parent + ·)) cursor.lines
      have depth : (header.depth.map (parent + ·)).map (· + width) = header.depth.map (parent + width + ·) := by
        cases header.depth with
        | none => rfl
        | some columns => simp only [Option.map_some, Nat.add_right_comm]
      rw [depth] at body
      simp only [Cursor.moved, body]
      exact congrArg (fun place => Except.ok (_, place)) (moved_move_to width cursor _)
  | none =>
      simp only
      split
      · exact moved_gathered width _ _ (fun _ => rfl) text cursor
      · split
        · exact moved_gathered width _ _ (fun _ => rfl) text cursor
        · have more : takeContinuation (parent + width) (cursor.moved width).lines = _ :=
            moved_continuation width parent cursor.lines unmarked
          simp only [more, moved_move_to]
          cases coercePlain ([' '].intercalate (text :: (takeContinuation parent cursor.lines).1)) <;> rfl

theorem moved_bind (width : Nat) (reading : Reading) (next other : Value × Cursor → Reading)
    (onward : ∀ value place, reading = .ok (value, place) → other (value, place.moved width) = movedReading width (next (value, place))) :
    (movedReading width reading).bind other = movedReading width (reading.bind next) := by
  cases reading with
  | error fault => rfl
  | ok found => exact onward found.1 found.2 rfl

theorem next_below {lines more : List Line} {next : Line} {number nextNumber : Nat} {left : List Line}
    (suffix : left <:+ lines) (settled : settle number left = ⟨nextNumber, next :: more⟩) (unmarked : Unmarked lines) :
    Unmarked more ∧ weightOf (next :: more) ≤ weightOf lines := by
  have part := settle_suffix number left
  rw [settled] at part
  have below := part.trans suffix
  exact ⟨unmarked_suffix unmarked ((List.suffix_cons next more).trans below), weightOf_suffix below⟩

-- The induction is the one of the readers. A line counts four times, so that on one line a list can come before its item, the
-- item before its value, and the value before a mapping.
mutual

theorem moved_block_reading (width number : Nat) (line : Line) (rest : List Line) (unmarked : Unmarked rest) :
    blockReading number (line.moved width) (movedLines width rest) = movedReading width (blockReading number line rest) := by
  rw [block_reading, block_reading, moved_after_dash]
  cases behind : line.afterDash? with
  | none => exact moved_mapping_reading width line.indent [] number line rest unmarked
  | some item =>
      have lighter := weight_afterDash? behind
      exact moved_sequence_reading width line.indent [] line.indent item number rest unmarked
termination_by 4 * weightOf (line :: rest) + 1
decreasing_by
  all_goals simp only [weightOf_cons]
  all_goals omega

theorem moved_mapping_reading (width indent : Nat) (entries : Entries) (number : Nat) (line : Line) (rest : List Line)
    (unmarked : Unmarked rest) : mappingReading (indent + width) entries number (line.moved width) (movedLines width rest) =
      movedReading width (mappingReading indent entries number line rest) := by
  rw [mapping_reading, mapping_reading, moved_content]
  cases entryHead? line.content with
  | none => rfl
  | some head =>
      simp only
      cases head.key.read with
      | error fault => rfl
      | ok key =>
          have positive := weight_pos line
          have value := moved_value_reading width head.value line.indent ⟨number + 1, rest⟩ unmarked
          simp only [Cursor.moved] at value
          simp only [Except.bind, moved_indent, value]
          refine moved_bind width _ _ _ fun value place found => ?_
          have suffix := placed_suffix _ _ _ found
          simp only [Cursor.moved, moved_settle width _ _ (unmarked_suffix unmarked suffix)]
          cases settled : settle place.number place.lines with
          | mk nextNumber left =>
              cases left with
              | nil => rfl
              | cons next more =>
                  obtain ⟨others, below⟩ := next_below suffix settled unmarked
                  simp only [movedLines, List.map_cons, mappingBehind, moved_indent, moved_content,
                    Nat.add_lt_add_iff_right, Nat.add_right_cancel_iff]
                  split
                  · rfl
                  · split
                    · split <;> rfl
                    · exact moved_mapping_reading width indent _ nextNumber next more others
termination_by 4 * weightOf (line :: rest)
decreasing_by
  all_goals simp only [weightOf_cons] at *
  all_goals omega

theorem moved_sequence_reading (width indent : Nat) (items : List Value) (dash : Nat) (item : Line) (number : Nat)
    (rest : List Line) (unmarked : Unmarked rest) :
    sequenceReading (indent + width) items (dash + width) (item.moved width) number (movedLines width rest) =
      movedReading width (sequenceReading indent items dash item number rest) := by
  have positive := weight_pos item
  rw [sequence_reading, sequence_reading, moved_item_reading width dash item number rest unmarked]
  refine moved_bind width _ _ _ fun value place found => ?_
  have suffix := placed_suffix _ _ _ found
  simp only [Cursor.moved, moved_settle width _ _ (unmarked_suffix unmarked suffix)]
  cases settled : settle place.number place.lines with
  | mk nextNumber left =>
      cases left with
      | nil => rfl
      | cons next more =>
          obtain ⟨others, below⟩ := next_below suffix settled unmarked
          simp only [movedLines, List.map_cons, sequenceBehind, moved_indent, moved_content, moved_after_dash,
            Nat.add_lt_add_iff_right, Nat.add_right_cancel_iff]
          split
          · rfl
          · cases behind : next.afterDash? with
            | none =>
                simp only [Option.map_none]
                split <;> rfl
            | some nextItem =>
                have lighter := weight_afterDash? behind
                exact moved_sequence_reading width indent _ next.indent nextItem nextNumber more others
termination_by 4 * weightOf (item :: rest) + 3
decreasing_by
  all_goals simp only [weightOf_cons] at *
  all_goals omega

theorem moved_item_reading (width dash : Nat) (item : Line) (number : Nat) (rest : List Line) (unmarked : Unmarked rest) :
    itemReading (dash + width) (item.moved width) number (movedLines width rest) =
      movedReading width (itemReading dash item number rest) := by
  have positive := weight_pos item
  rw [item_reading, item_reading, moved_body]
  split
  · rw [moved_settle width _ _ unmarked]
    cases settled : settle (number + 1) rest with
    | mk nextNumber left =>
        cases left with
        | nil => rfl
        | cons next more =>
            obtain ⟨others, below⟩ := next_below (List.suffix_refl rest) settled unmarked
            simp only [Cursor.moved, movedLines, List.map_cons, itemBelow, moved_indent, Nat.add_lt_add_iff_right]
            split
            · exact moved_block_reading width nextNumber next more others
            · rfl
  · split
    · exact moved_block_reading width number item rest unmarked
    · exact moved_value_reading width item.body dash ⟨number + 1, rest⟩ unmarked
termination_by 4 * weightOf (item :: rest) + 2
decreasing_by
  all_goals simp only [weightOf_cons] at *
  all_goals omega

theorem moved_value_reading (width : Nat) (text : List Char) (parent : Nat) (cursor : Cursor) (unmarked : Unmarked cursor.lines) :
    valueReading text (parent + width) (cursor.moved width) = movedReading width (valueReading text parent cursor) := by
  rw [value_reading, value_reading]
  split
  · simp only [Cursor.moved, moved_settle width _ _ unmarked]
    cases settled : settle cursor.number cursor.lines with
    | mk nextNumber left =>
        cases left with
        | nil => rfl
        | cons next more =>
            obtain ⟨others, below⟩ := next_below (List.suffix_refl cursor.lines) settled unmarked
            simp only [movedLines, List.map_cons, valueBelow, moved_indent, moved_after_dash, Nat.add_lt_add_iff_right,
              Nat.add_right_cancel_iff]
            split
            · exact moved_block_reading width nextNumber next more others
            · split
              · cases behind : next.afterDash? with
                | none => rfl
                | some item =>
                    have lighter := weight_afterDash? behind
                    exact moved_sequence_reading width next.indent [] next.indent item nextNumber more others
              · rfl
  · exact moved_scalar width _ parent cursor unmarked
termination_by 4 * weightOf cursor.lines + 2
decreasing_by
  all_goals simp only [weightOf_cons] at *
  all_goals omega

end

theorem moved_more (width : Nat) (value : Value) (cursor : Cursor) (unmarked : Unmarked cursor.lines) :
    readMore value (cursor.moved width) = readMore value cursor := by
  rw [more_reading, more_reading]
  simp only [Cursor.moved, moved_settle width _ _ unmarked]
  cases settled : settle cursor.number cursor.lines with
  | mk number left =>
      cases left with
      | nil => rfl
      | cons line rest =>
          obtain ⟨others, below⟩ := next_below (List.suffix_refl cursor.lines) settled unmarked
          simp only [movedLines, List.map_cons]
          rw [← movedLines, moved_block_reading width number line rest others]
          cases read : blockReading number line rest with
          | error fault => rfl
          | ok found =>
              have suffix := placed_suffix _ _ _ read
              have shorter := weightOf_suffix suffix
              have positive := weight_pos line
              simp only [movedReading, Except.map, Except.bind]
              cases joined? value found.1 with
              | none => rfl
              | some whole => exact moved_more width whole found.2 (unmarked_suffix others suffix)
termination_by weightOf cursor.lines
decreasing_by
  simp only [weightOf_cons] at *
  omega

theorem moved_read_lines (width : Nat) (lines : List Line) (unmarked : Unmarked lines) :
    readLines (movedLines width lines) = readLines lines := by
  rw [lines_reading, lines_reading, moved_settle width 1 lines unmarked]
  cases settled : settle 1 lines with
  | mk number left =>
      cases left with
      | nil => rfl
      | cons line rest =>
          obtain ⟨others, -⟩ := next_below (List.suffix_refl lines) settled unmarked
          simp only [Cursor.moved, movedLines, List.map_cons]
          rw [← movedLines, moved_block_reading width number line rest others]
          cases read : blockReading number line rest with
          | error fault => rfl
          | ok found => exact moved_more width found.1 found.2 (unmarked_suffix others (placed_suffix _ _ _ read))

theorem expand_no_tabs (width column : Nat) (text : List Char) (no_tab : '\t' ∉ text) :
    Text.expandTabs width column text = text := by
  induction text generalizing column with
  | nil => rfl
  | cons c text ih =>
      simp only [List.mem_cons, not_or] at no_tab
      rw [Text.expandTabs, if_neg (Ne.symm no_tab.1), ih _ no_tab.2]

theorem line_of_indented (width : Nat) (text : List Char) (no_tab : '\t' ∉ text) :
    Line.ofText (List.replicate width ' ' ++ text) = (Line.ofText text).moved width := by
  have in_front : '\t' ∉ List.replicate width ' ' ++ text := by simp [no_tab]
  have spaces : ∀ c ∈ List.replicate width ' ', decide (c = ' ') = true := by simp
  unfold Line.ofText Line.moved
  simp only [expand_no_tabs _ _ _ in_front, expand_no_tabs _ _ _ no_tab, List.takeWhile_append_of_pos spaces,
    List.dropWhile_append_of_pos spaces, List.length_append, List.length_replicate, Nat.add_comm width]

theorem unmarked_line (text : List Char) (no_tab : '\t' ∉ text) (plain : isMarker text = false)
    (first : (Line.ofText text).indent = 0) : isMarker (Line.ofText text).body = false := by
  simp only [Line.ofText, expand_no_tabs _ _ _ no_tab, List.length_eq_zero_iff] at first ⊢
  have whole := List.takeWhile_append_dropWhile (p := (decide <| · = ' ')) (l := text)
  rw [first, List.nil_append] at whole
  rw [whole, plain]

end Document

/-- The text with spaces in front of each line. The end of the last line opens no further one. -/
def Text.indented (width : Nat) : (atStart : Bool) → List Char → List Char
  | _, [] => []
  | atStart, c :: rest => (if atStart then List.replicate width ' ' else []) ++ c :: indented width (c = '\n') rest

namespace Text

def FeedsAlone (text : List Char) : Prop :=
  ∀ c ∈ text, isLineBreak c = true → c = '\n'

theorem indented_start (width : Nat) (c : Char) (rest : List Char) :
    indented width true (c :: rest) = List.replicate width ' ' ++ indented width false (c :: rest) := rfl

theorem split_lines_ne_nil (c : Char) (rest : List Char) (no_return : c ≠ '\r') : splitLines (c :: rest) ≠ [] := by
  rw [split_lines_cons c rest no_return]
  split
  · simp
  · cases splitLines rest <;> simp [consLine]

theorem mem_split_lines (text line : List Char) (member : line ∈ splitLines text) : ∀ c ∈ line, c ∈ text := by
  induction text using splitLines.induct generalizing line with
  | case1 => cases member
  | case2 rest ih =>
      rw [splitLines] at member
      rcases List.mem_cons.mp member with rfl | later
      · simp
      · exact fun c inside => by simp [ih line later c inside]
  | case3 c rest _ ends ih =>
      rw [splitLines, if_pos ends] at member
      · rcases List.mem_cons.mp member with rfl | later
        · simp
        · exact fun d inside => List.mem_cons_of_mem c (ih line later d inside)
      · assumption
  | case4 c rest _ inside ih =>
      rw [splitLines, if_neg inside] at member
      · cases lines : splitLines rest with
        | nil =>
            rw [lines] at member
            obtain rfl := List.mem_singleton.mp member
            simp
        | cons first more =>
            rw [lines] at member ih
            rcases List.mem_cons.mp member with rfl | later
            · exact List.forall_mem_cons.mpr ⟨List.mem_cons_self, fun d within =>
                List.mem_cons_of_mem c (ih first List.mem_cons_self d within)⟩
            · exact fun d within => List.mem_cons_of_mem c (ih line (List.mem_cons_of_mem first later) d within)
      · assumption

theorem split_lines_spaces (width : Nat) (text first : List Char) (others : List (List Char))
    (lines : splitLines text = first :: others) :
    splitLines (List.replicate width ' ' ++ text) = (List.replicate width ' ' ++ first) :: others := by
  induction width with
  | zero => exact lines
  | succ width ih =>
      rw [List.replicate_succ, List.cons_append, split_lines_cons ' ' _ (by decide), if_neg (by decide), ih]
      rfl

theorem split_indented (width : Nat) (text : List Char) (feeds : FeedsAlone text) :
    splitLines (indented width true text) = (splitLines text).map (List.replicate width ' ' ++ ·) ∧
      splitLines (indented width false text) =
        (splitLines text).take 1 ++ ((splitLines text).drop 1).map (List.replicate width ' ' ++ ·) := by
  induction text with
  | nil => exact ⟨rfl, rfl⟩
  | cons c rest ih =>
      obtain ⟨here, others⟩ := List.forall_mem_cons.mp feeds
      obtain ⟨started, inside⟩ := ih others
      have no_return : c ≠ '\r' := by
        rintro rfl
        exact absurd (here rfl) (by decide)
      have later : splitLines (indented width false (c :: rest)) =
          (splitLines (c :: rest)).take 1 ++ ((splitLines (c :: rest)).drop 1).map (List.replicate width ' ' ++ ·) := by
        have whole : indented width false (c :: rest) = c :: indented width (c = '\n') rest := rfl
        rw [whole, split_lines_cons c _ no_return, split_lines_cons c _ no_return]
        by_cases feed : c = '\n'
        · subst feed
          rw [if_pos (by decide), if_pos (by decide), decide_eq_true rfl, started]
          rfl
        · have no_break : ¬isLineBreak c = true := fun ends => feed (here ends)
          rw [if_neg no_break, if_neg no_break, decide_eq_false feed, inside]
          cases splitLines rest <;> rfl
      refine ⟨?_, later⟩
      cases lines : splitLines (c :: rest) with
      | nil => exact absurd lines (split_lines_ne_nil c rest no_return)
      | cons first more =>
          rw [lines] at later
          rw [indented_start]
          exact split_lines_spaces width _ first _ later

end Text

theorem Json.indented_respaced (width : Nat) (text : List Char) : Respaced text (Text.indented width false text) := by
  induction text with
  | nil => exact .nil
  | cons c rest ih =>
      have whole : Text.indented width false (c :: rest) = c :: Text.indented width (c = '\n') rest := rfl
      rw [whole]
      by_cases feed : c = '\n'
      · subst feed
        rw [decide_eq_true rfl]
        cases rest with
        | nil => exact .cons '\n' [] [] .nil
        | cons d rest =>
            exact .feed '\n' (List.replicate width ' ') _ _ ⟨rfl, by decide⟩ (by simp [isSpace]) ih
      · rw [decide_eq_false feed]
        exact .cons c rest _ ih

namespace Document

theorem lines_of_indented (width : Nat) (text : List Char) (no_tab : '\t' ∉ text) (feeds : Text.FeedsAlone text) :
    linesOf (Text.indented width true text) = movedLines width (linesOf text) := by
  rw [linesOf, linesOf, (Text.split_indented width text feeds).1, movedLines, List.map_map, List.map_map]
  refine List.map_congr_left fun line member => ?_
  exact line_of_indented width line fun tab => no_tab (Text.mem_split_lines text line member '\t' tab)

theorem trim_indented (width : Nat) (text : List Char) :
    Text.trim (Text.indented width true text) = Text.trim (Text.indented width false text) := by
  cases text with
  | nil => rfl
  | cons c rest =>
      have spaces : ∀ c ∈ List.replicate width ' ', Text.isBlank c = true := by simp [Text.isBlank]
      rw [Text.indented_start, Text.trim, Text.trimLeft, List.dropWhile_append_of_pos spaces]
      rfl

theorem read_indented (width : Nat) (text : List Char) (no_tab : '\t' ∉ text) (feeds : Text.FeedsAlone text)
    (no_marker : ∀ line ∈ Text.splitLines text, isMarker line = false) :
    readText (Text.indented width true text) = readText text := by
  have unmarked : Unmarked (linesOf text) := by
    intro line member
    obtain ⟨source, found, rfl⟩ := List.mem_map.mp member
    exact unmarked_line source (fun tab => no_tab (Text.mem_split_lines text source found '\t' tab)) (no_marker source found)
  refine read_text_respaced text _ ?_ ?_
  · rw [trim_indented]
    exact Json.trim_respaced _ _ (Json.indented_respaced width text)
  · rw [lines_of_indented width text no_tab feeds, moved_read_lines width _ unmarked]

end Document

/-- The document with spaces in front of each line. -/
def indented (width : Nat) (text : String) : String :=
  String.ofList (Text.indented width true text.toList)

theorem indentation_ignored (width : Nat) (text : String) (no_tab : '\t' ∉ text.toList)
    (feeds : ∀ c ∈ text.toList, Text.isLineBreak c = true → c = '\n')
    (no_marker : ∀ line ∈ Text.splitLines text.toList, Document.isMarker line = false) :
    readDocument (indented width text) = readDocument text := by
  simp only [readDocument, indented, String.toList_ofList]
  exact Document.read_indented width text.toList no_tab feeds no_marker

def deepList : String := "processors:
- mapping: |2
      a
     b

  label: 'x
    y'
"

theorem indentation_ignored_deep_list : '\t' ∉ deepList.toList ∧
    (∀ c ∈ deepList.toList, Text.isLineBreak c = true → c = '\n') ∧
      (∀ line ∈ Text.splitLines deepList.toList, Document.isMarker line = false) ∧
        readDocument (indented 3 deepList) = readDocument deepList :=
  ⟨by decide, by decide, by decide, indentation_ignored 3 deepList (by decide) (by decide) (by decide)⟩

end PipelineLint
