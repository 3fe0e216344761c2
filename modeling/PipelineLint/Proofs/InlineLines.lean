import Mathlib
import PipelineLint.Proofs.FlowFronts
import PipelineLint.Proofs.WrittenBlocks

set_option autoImplicit false

namespace PipelineLint.Document

def opensInline (text : List Char) : Bool :=
  text.head?.any fun c => opensFlow c || isQuote c

def IsCut (front whole : List Char) : Prop :=
  ∃ tail, whole = front ++ tail ∧ tail.head? ≠ some '\'' ∧ '#' ∈ tail

theorem cut_trans (front middle whole : List Char) (inner : front = middle ∨ IsCut front middle)
    (outer : middle = whole ∨ IsCut middle whole) : (front = middle ∧ middle = whole) ∨ IsCut front whole := by
  rcases inner with rfl | ⟨tail, rfl, apart, sign⟩
  · exact outer.imp_left fun same => ⟨rfl, same⟩
  · rcases outer with rfl | ⟨more, rfl, -, -⟩
    · exact .inr ⟨tail, rfl, apart, sign⟩
    · refine .inr ⟨tail ++ more, by simp, ?_, by simp [sign]⟩
      obtain ⟨c, others, rfl⟩ := List.exists_cons_of_ne_nil (List.ne_nil_of_mem sign)
      simpa using apart

theorem strip_cut (text : List Char) : stripComment text = text ∨ IsCut (stripComment text) text := by
  unfold stripComment
  split
  · rename_i kept found
    obtain ⟨tail, -, rfl, -⟩ := before_comment_outside none none text kept found
    obtain ⟨dropped, split, blank⟩ := Text.dropTrailing_append_dropped Text.isBlank kept
    refine .inr ⟨dropped ++ '#' :: tail, ?_, ?_, by simp⟩
    · rw [← List.append_assoc]
      exact congrArg (· ++ '#' :: tail) split
    · cases dropped with
      | nil => simp
      | cons c rest =>
          have first := List.all_eq_true.mp blank c (by simp)
          intro quote
          rw [Option.some.inj quote] at first
          cases first
  · exact .inl rfl

theorem opens_inline_head (text : List Char) (opens : opensInline text = true) :
    ∃ c rest, text = c :: rest ∧ (opensFlow c = true ∨ isQuote c = true) ∧ Text.isBlank c = false ∧ isFlowSpace c = false ∧
      c ≠ '|' ∧ c ≠ '>' ∧ c ≠ '#' := by
  cases text with
  | nil => cases opens
  | cons c rest =>
      have first : opensFlow c = true ∨ isQuote c = true := Bool.or_eq_true_iff.mp opens
      refine ⟨c, rest, rfl, first, ?_⟩
      simp only [opensFlow, isQuote, Bool.or_eq_true, decide_eq_true_eq] at first
      rcases first with (rfl | rfl) | (rfl | rfl) <;> decide

theorem opened_kept (whole other stops limits more : List Char) (c : Char) (rest : List Char) (value : Value)
    (after : List Char) (opens : opensFlow c = true) (front : flowFront? whole stops (c :: rest) = some (value, after)) :
    Kept (flowFront? other limits (c :: (rest ++ more))) (value, after ++ more) := by
  obtain ⟨-, items, entries⟩ := fronts_kept whole other more rest
  have no_space : isFlowSpace c ≠ true := by
    intro space
    simp only [opensFlow, Bool.or_eq_true, decide_eq_true_eq] at opens
    rcases opens with rfl | rfl <;> cases space
  rw [flow_front_cons, if_neg no_space] at front ⊢
  by_cases bracket : c = '['
  · rw [if_pos bracket] at front ⊢
    obtain ⟨taken, inside, same⟩ := Option.map_eq_some_iff.mp front
    cases same
    exact kept_map _ _ taken.1 (taken.2 ++ more) (items taken.1 taken.2 inside)
  · have brace : c = '\x7b' := by simpa [opensFlow, bracket] using opens
    rw [if_neg bracket, if_pos brace] at front ⊢
    obtain ⟨taken, inside, same⟩ := Option.map_eq_some_iff.mp front
    cases same
    exact kept_map _ _ taken.1 (taken.2 ++ more) (entries [] taken.1 taken.2 inside)

theorem read_flow_front (text : List Char) (value : Value) (read : readFlow text = .ok value) :
    ∃ after, flowFront? text (']' :: entryStops) text = some (value, after) ∧ skipFlowSpaces after = [] := by
  unfold readFlow at read
  unfold flowFront?
  split at read
  · cases read
  · rename_i found after bound taken
    split at read
    · rename_i nothing
      cases read
      exact ⟨after, by rw [taken]; rfl, nothing⟩
    · cases read

theorem read_inline_front (c : Char) (rest : List Char) (value : Value) (trimmed : Text.trim (c :: rest) = c :: rest)
    (opens : opensFlow c = true ∨ isQuote c = true) (read : readInline (c :: rest) = .ok value) :
    (opensFlow c = true ∧ readFlow (c :: rest) = .ok value) ∨
      (opensFlow c = false ∧ ∃ content after, quotedFront? c rest = some (content, after) ∧ Text.trim after = []) := by
  unfold readInline at read
  rw [trimmed] at read
  simp only at read
  cases flow : opensFlow c with
  | true =>
      rw [if_pos flow] at read
      exact .inl ⟨rfl, read⟩
  | false =>
      rw [if_neg (by simp [flow]), if_pos (by simpa [flow] using opens)] at read
      refine .inr ⟨rfl, ?_⟩
      have same := quoted_front c rest
      split at read
      · cases read
      · rename_i text after bound taken
        rw [taken, front_of_ok] at same
        obtain ⟨⟨content, behind⟩, front, both⟩ := Option.map_eq_some_iff.mp same.symm
        cases both
        refine ⟨content, after, front, ?_⟩
        split at read
        · assumption
        · cases read

theorem cut_unread (front whole : List Char) (first second : Value) (cut : IsCut front whole) (opens : opensInline front = true)
    (trimmed : Text.trim front = front) (ends : Text.trim whole = whole) (short : readInline front = .ok first) :
    readInline whole ≠ .ok second := by
  intro long
  obtain ⟨tail, rfl, apart, sign⟩ := cut
  obtain ⟨c, rest, rfl, starts, -⟩ := opens_inline_head front opens
  rw [List.cons_append] at ends long
  rcases read_inline_front c rest first trimmed starts short with ⟨flow, read⟩ | ⟨quote, content, after, read, -⟩
  · have longer := (read_inline_front c (rest ++ tail) second ends starts long).resolve_right (by simp [flow])
    obtain ⟨after, taken, -⟩ := read_flow_front _ first read
    obtain ⟨behind, found, nothing⟩ := read_flow_front _ second longer.2
    have same := opened_kept _ _ _ _ tail c rest first after flow taken _ found
    cases same
    have spaces := List.dropWhile_eq_nil_iff.mp nothing '#' (by simp [sign])
    cases spaces
  · obtain ⟨-, inside, behind, found, nothing⟩ :=
      (read_inline_front c (rest ++ tail) second ends starts long).resolve_left (by simp [quote])
    have same := quoted_kept c rest tail content after read (.inr apart) _ found
    cases same
    exact trim_ink (after ++ tail) '#' (by simp [sign]) (by decide) nothing

theorem inline_trimmed (text : List Char) (opens : opensInline text = true) (trimmed : Text.trim text = text) :
    IsTrimmed text := by
  obtain ⟨c, rest, rfl, -, visible, -⟩ := opens_inline_head text opens
  have left := trim_left_of_head c rest visible
  rw [Text.trim, left] at trimmed
  exact ⟨by simp, left, trimmed⟩

theorem trim_right_twice (text : List Char) : Text.trimRight (Text.trimRight text) = Text.trimRight text := by
  obtain ⟨dropped, split, blank⟩ := Text.dropTrailing_append_dropped Text.isBlank text
  have whole : text = Text.trimRight text ++ dropped := split
  have same := trim_right_blanks (Text.trimRight text) dropped blank
  rw [← whole] at same
  exact same.symm

theorem strip_opens (text : List Char) (opens : opensInline text = true) (trimmed : Text.trim text = text) :
    opensInline (stripComment text) = true ∧ Text.trim (stripComment text) = stripComment text := by
  obtain ⟨c, rest, rfl, starts, visible, -, -, -, no_sign⟩ := opens_inline_head text opens
  unfold stripComment
  split
  · rename_i kept found
    obtain ⟨tail, -, split, -⟩ := before_comment_outside none none _ kept found
    cases kept with
    | nil =>
        cases split
        contradiction
    | cons d inside =>
        cases split
        rw [trim_right_visible c inside visible]
        refine ⟨opens, ?_⟩
        rw [Text.trim, trim_left_of_head c _ visible, trim_right_visible c _ visible, trim_right_twice]
  · exact ⟨opens, trimmed⟩

def aloneLine (text : List Char) : Line :=
  ⟨0, 'k' :: ':' :: ' ' :: text⟩

def nextRow : Row :=
  ⟨0, entryText "z" ['1'], []⟩

def nextLine : Line :=
  ⟨0, ['z', ':', ' ', '1']⟩

def twoLines (text : List Char) : List Char :=
  'k' :: ':' :: ' ' :: (text ++ '\n' :: ['z', ':', ' ', '1'])

theorem two_lines (text : List Char) (flat : ∀ c ∈ text, isFlat c = true) :
    linesOf (twoLines text) = [aloneLine text, nextLine] := by
  have all : ∀ c ∈ 'k' :: ':' :: ' ' :: text, isFlat c = true := by
    intro c member
    simp only [List.mem_cons] at member
    rcases member with rfl | rfl | rfl | inside
    · decide
    · decide
    · decide
    · exact flat c inside
  have one_line := flat_one_line ('k' :: ':' :: ' ' :: text) all
  have expanded := flat_expanded Line.tabWidth 0 _ [] all
  rw [List.append_nil, Text.expandTabs, List.append_nil] at expanded
  have cut : Text.splitLines (twoLines text) = ['k' :: ':' :: ' ' :: text, ['z', ':', ' ', '1']] :=
    split_lines_line ('k' :: ':' :: ' ' :: text) ['z', ':', ' ', '1'] one_line
  rw [linesOf, cut, List.map_cons, List.map_cons, List.map_nil, Line.ofText, expanded]
  rfl

theorem two_lines_read (text : List Char) (flat : ∀ c ∈ text, isFlat c = true) :
    readText (twoLines text) = readLines [aloneLine text, nextLine] := by
  rw [← two_lines text flat]
  apply read_text_block
  rw [Text.trim, twoLines, trim_left_of_head 'k' _ (by decide), trim_right_visible 'k' _ (by decide)]
  rfl

theorem next_row_text : IsRowText nextRow.text :=
  .entry "z" ['1'] (by decide) fun _ => inline_legible (.int 1) _ (.int 1 (by decide)) (by decide)

theorem next_row_held : Holds nextRow nextLine :=
  ⟨next_row_text, rfl, [], .none, rfl⟩

theorem next_row_read (entries : Entries) (number : Nat) (line : Line) (rest : List Line) (held : Holds nextRow line)
    (behind : Behind [] [] rest) : Reads (readMapping 0 entries number line rest) (.map (entries.put (.str "z") (.int 1))) [] := by
  have written : EntriesRows 0 [(.str "z", .int 1)] [nextRow] :=
    .cons [nextRow] [] (by decide) (.inline ['1'] (.int 1 (by decide))) .nil
  exact entries_read written nextRow [] rfl entries [] number line rest nofun held behind

section Alone

variable (text : List Char) (trimmed : IsTrimmed text)

include trimmed

theorem alone_content : (aloneLine text).content = 'k' :: ':' :: ' ' :: text :=
  trimmed_trim _ (trimmed_append 'k' [':', ' '] text (by decide) trimmed)

theorem alone_entry : entryHead? (aloneLine text).content = some ⟨.plain ['k'], text⟩ := by
  have said : afterColon? (' ' :: text) = some text := by
    rw [afterColon?, if_pos (by decide), trimmed.left]
  have taken : takePlainKey? 'k' (':' :: ' ' :: text) = some ([], text) := take_plain_key 'k' [] (' ' :: text) text (List.forall_mem_nil _) said
  rw [alone_content text trimmed, entry_head_plain 'k' _ (by decide) (by decide), if_pos (by decide), taken]
  rfl

theorem alone_first (rest : List Line) :
    settle 1 (aloneLine text :: rest) = ⟨1, aloneLine text :: rest⟩ ∧
      readBlock 1 (aloneLine text) rest = readMapping 0 [] 1 (aloneLine text) rest := by
  have content := alone_content text trimmed
  have significant : (aloneLine text).isSignificant = true := by
    have no_marker : isMarker (aloneLine text).body = false := start_no_marker 'k' _ (by decide)
    rw [Line.isSignificant, content, no_marker]
    rfl
  refine ⟨?_, ?_⟩
  · rw [settle, if_pos significant]
  · apply read_block_mapping
    rw [Line.afterDash?, content]
    rfl

theorem alone_next (value : Value) (rest : List Line) (read : Reads (readValue text 0 ⟨2, rest⟩) value [nextRow]) :
    readLines (aloneLine text :: rest) = .ok (.map [(.str "k", value), (.str "z", .int 1)]) := by
  obtain ⟨first, mapping⟩ := alone_first text trimmed rest
  have whole : Reads (readMapping 0 [] 1 (aloneLine text) rest) (.map [(.str "k", value), (.str "z", .int 1)]) [] :=
    read_mapping_next nextRow [] [] _ (alone_entry text trimmed) rfl read rfl ⟨'z', [':', ' ', '1'], rfl, by decide⟩
      fun number line rest held behind => next_row_read _ number line rest held behind
  obtain ⟨place, read, shown⟩ := whole
  obtain ⟨last, ends⟩ := settle_end place.1.number place.1.lines shown
  exact read_lines_value 1 last _ _ _ _ place first (mapping.trans read) ends

theorem two_lines_next (value : Value) (flat : ∀ c ∈ text, isFlat c = true)
    (read : Reads (readValue text 0 ⟨2, [nextLine]⟩) value [nextRow]) :
    readText (twoLines text) = .ok (.map [(.str "k", value), (.str "z", .int 1)]) :=
  (two_lines_read text flat).trans (alone_next text trimmed value [nextLine] read)

theorem two_lines_last (value : Value) (flat : ∀ c ∈ text, isFlat c = true)
    (read : Reads (readValue text 0 ⟨2, [nextLine]⟩) value []) :
    readText (twoLines text) = .ok (.map [(.str "k", value)]) := by
  obtain ⟨first, mapping⟩ := alone_first text trimmed [nextLine]
  have whole : Reads (readMapping 0 [] 1 (aloneLine text) [nextLine]) (.map [(.str "k", value)]) [] :=
    read_mapping_last [] (alone_entry text trimmed) rfl read nofun
  obtain ⟨place, read, shown⟩ := whole
  obtain ⟨last, ends⟩ := settle_end place.1.number place.1.lines shown
  rw [two_lines_read text flat]
  exact read_lines_value 1 last _ _ _ _ place first (mapping.trans read) ends

theorem two_lines_fault (fault : Fault) (flat : ∀ c ∈ text, isFlat c = true)
    (failed : readValue text 0 ⟨2, [nextLine]⟩ = .error fault) : readText (twoLines text) = .error fault := by
  obtain ⟨first, mapping⟩ := alone_first text trimmed [nextLine]
  rw [two_lines_read text flat]
  apply read_lines_fault 1 _ _ _ fault first
  rw [mapping]
  exact read_mapping_value_fault 0 [] 1 (aloneLine text) [nextLine] _ "k" fault (alone_entry text trimmed) rfl failed

end Alone

theorem read_opened (text : List Char) (parent : Nat) (cursor : Cursor) (opens : opensInline text = true) :
    ∃ piece finish, readScalar text parent cursor = readGathered piece finish text cursor ∧
      (finish text = text ∨ finish text = stripComment text) := by
  obtain ⟨c, rest, rfl, starts, -, -, no_bar, no_fold, -⟩ := opens_inline_head text opens
  have no_header : blockHeader? (c :: rest) = none := by simp [blockHeader?, no_bar, no_fold]
  cases flow : opensFlow c with
  | true =>
      refine ⟨fun line => stripComment line.content, id, ?_, .inl rfl⟩
      simp only [readScalar, no_header, List.head?_cons, Option.any_some, flow, if_true]
  | false =>
      have quote : isQuote c = true := by simpa [flow] using starts
      refine ⟨Line.content, stripComment, ?_, .inr rfl⟩
      simp only [readScalar, no_header, List.head?_cons, Option.any_some, flow, quote, if_true, Bool.false_eq_true, if_false]

theorem value_gathered (text : List Char) (opens : opensInline text = true) (trimmed : Text.trim text = text) (cursor : Cursor) :
    ∃ piece finish, readValue text 0 cursor = readGathered piece finish (stripComment text) cursor ∧
      (finish (stripComment text) = stripComment text ∨ finish (stripComment text) = stripComment (stripComment text)) := by
  obtain ⟨opens_said, trimmed_said⟩ := strip_opens text opens trimmed
  obtain ⟨piece, finish, scalar, finished⟩ := read_opened (stripComment text) 0 cursor opens_said
  have some_said : Text.trim (stripComment text) ≠ [] := by
    intro nothing
    rw [← trimmed_said, nothing] at opens_said
    cases opens_said
  refine ⟨piece, finish, ?_, finished⟩
  rw [read_value_scalar _ 0 _ some_said, trimmed_said, scalar]

theorem gather_open (piece : Line → List Char) (text : List Char) (line : Line) (left_open : isUnbalanced text = true) :
    gather piece text [line] = (text ++ ' ' :: piece line, []) := by
  rw [gather, if_pos left_open, gather]

theorem gathered_fault (piece : Line → List Char) (finish : List Char → List Char) (text : List Char) (cursor : Cursor)
    (fault : Fault) (failed : readInline (finish (gather piece text cursor.lines).1) = .error fault) :
    readGathered piece finish text cursor = .error (fault.atLine (cursor.number - 1)) := by
  simp only [readGathered, failed]

section Gathered

variable (text said : List Char) (piece : Line → List Char) (finish : List Char → List Char) (trimmed : IsTrimmed text)
  (flat : ∀ c ∈ text, isFlat c = true)
  (same : readValue text 0 ⟨2, [nextLine]⟩ = readGathered piece finish said ⟨2, [nextLine]⟩)

include trimmed flat same

theorem open_two_lines (value : Value) (left_open : isUnbalanced said = true) :
    readText (twoLines text) ≠ .ok (.map [(.str "k", value), (.str "z", .int 1)]) := by
  intro whole
  have taken := gather_open piece said nextLine left_open
  cases read : readInline (finish (said ++ ' ' :: piece nextLine)) with
  | error fault =>
      have failed := gathered_fault piece finish said ⟨2, [nextLine]⟩ fault (by rw [taken, read])
      rw [two_lines_fault text trimmed _ flat (same.trans failed)] at whole
      cases whole
  | ok other =>
      have alone : Reads (readGathered piece finish said ⟨2, [nextLine]⟩) other [] := by
        refine ⟨After.moved ⟨2, [nextLine]⟩ (gather_suffix piece said [nextLine]), ?_, ?_⟩
        · simp only [readGathered, taken, read]
        · simpa only [After.moved, Cursor.moveTo, taken] using Shown.nil
      rw [two_lines_last text trimmed other flat (same ▸ alone)] at whole
      cases whole

theorem closed_two_lines (value : Value) (balanced : isUnbalanced said = false) :
    readText (twoLines text) = .ok (.map [(.str "k", value), (.str "z", .int 1)]) ↔ readInline (finish said) = .ok value := by
  have next (other : Value) (read : readInline (finish said) = .ok other) :
      readText (twoLines text) = .ok (.map [(.str "k", other), (.str "z", .int 1)]) := by
    apply two_lines_next text trimmed other flat
    rw [same]
    exact read_gathered piece finish said _ other [nextRow] (.row _ [] next_row_held (.inl rfl) .nil) balanced read
  constructor
  · intro whole
    cases read : readInline (finish said) with
    | error fault =>
        have taken := gather_balanced piece said [nextLine] balanced
        have failed := gathered_fault piece finish said ⟨2, [nextLine]⟩ fault (by rw [taken, read])
        rw [two_lines_fault text trimmed _ flat (same.trans failed)] at whole
        cases whole
    | ok other =>
        rw [next other read] at whole
        cases whole
        rfl
  · exact next value

end Gathered

end PipelineLint.Document

namespace PipelineLint

open Document

theorem inline_self_contained_iff (text : List Char) (value : Value) (opens : opensInline text = true)
    (flat : ∀ c ∈ text, isFlat c = true) (trimmed : Text.trim text = text) (read : readInline text = .ok value) :
    readDocument (String.ofList (twoLines text)) = .ok (.map [(.str "k", value), (.str "z", .int 1)]) ↔
      ¬HasComment text ∧ IsBalanced text := by
  rw [← strip_comment_iff, ← unbalanced_iff]
  have ends := inline_trimmed text opens trimmed
  obtain ⟨opens_said, trimmed_said⟩ := strip_opens text opens trimmed
  obtain ⟨piece, finish, same, finished⟩ := value_gathered text opens trimmed ⟨2, [nextLine]⟩
  rw [readDocument, String.toList_ofList]
  constructor
  · intro whole
    cases balanced : isUnbalanced (stripComment text) with
    | true => exact absurd whole (open_two_lines text _ piece finish ends flat same value balanced)
    | false =>
        have short := (closed_two_lines text _ piece finish ends flat same value balanced).mp whole
        have inner : (finish (stripComment text) = stripComment text ∨ IsCut (finish (stripComment text)) (stripComment text)) ∧
            opensInline (finish (stripComment text)) = true ∧
            Text.trim (finish (stripComment text)) = finish (stripComment text) := by
          rcases finished with all | all <;> rw [all]
          · exact ⟨.inl rfl, opens_said, trimmed_said⟩
          · exact ⟨strip_cut _, strip_opens _ opens_said trimmed_said⟩
        rcases cut_trans _ _ text inner.1 (strip_cut text) with ⟨-, kept⟩ | cut
        · exact ⟨kept, kept ▸ balanced⟩
        · exact absurd read (cut_unread _ text value value cut inner.2.1 inner.2.2 trimmed short)
  · rintro ⟨kept, balanced⟩
    rw [kept] at same finished
    have whole : finish text = text := finished.elim id fun all => all.trans kept
    exact (closed_two_lines text text piece finish ends flat same value balanced).mpr (by rw [whole, read])

theorem inline_self_contained_iff_list : readInline "[\"a # b\", 'c', d]".toList =
      .ok (.list [.str "a # b", .str "c", .str "d"]) ∧
    readDocument "k: [\"a # b\", 'c', d]\nz: 1" =
      .ok (.map [(.str "k", .list [.str "a # b", .str "c", .str "d"]), (.str "z", .int 1)]) := by
  have read : readInline "[\"a # b\", 'c', d]".toList = .ok (.list [.str "a # b", .str "c", .str "d"]) := by cbv
  have whole := (inline_self_contained_iff _ _ (by decide) (by decide) (by decide) read).mpr
    ⟨(strip_comment_iff _).mp (by decide), (unbalanced_iff _).mp (by decide)⟩
  exact ⟨read, (congrArg readDocument (by decide)).trans whole⟩

theorem escaped_quote_swallows : readInline "\"a\\\"b\"".toList = .ok (.str "a\"b") ∧
    readDocument "k: \"a\\\"b\"\nz: 1" ≠ .ok (.map [(.str "k", .str "a\"b"), (.str "z", .int 1)]) := by
  refine ⟨rfl, ?_⟩
  have opens : opensInline "\"a\\\"b\"".toList = true := rfl
  have trimmed : Text.trim "\"a\\\"b\"".toList = "\"a\\\"b\"".toList := rfl
  obtain ⟨piece, finish, same, -⟩ := value_gathered _ opens trimmed ⟨2, [nextLine]⟩
  exact open_two_lines _ _ piece finish (inline_trimmed _ opens trimmed) (by decide) same (.str "a\"b") (by decide)

end PipelineLint
