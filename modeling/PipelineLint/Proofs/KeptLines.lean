import PipelineLint.Proofs.Edits
import PipelineLint.Proofs.KeptRows
import PipelineLint.Proofs.WrittenBlocks
/-!
What a repair does to the data of a document in block style. Main statement: the repaired text reads
as the data of the document, with corrected keys and calls, in which the entries of keys that are now
the same have become one.
-/

set_option autoImplicit false

namespace PipelineLint.Document

open Repair Expression

variable {calls : Prop}

theorem silent_lead (line : List Char) (silent : isSilent line = true) : leadOf line = .silent := by
  have content : (Text.trim line = [] || (Text.trim line).head? = some '#') = true := by
    unfold isSilent at silent
    unfold Text.trim
    cases left : Text.trimLeft line with
    | nil => rfl
    | cons c rest =>
        rw [left] at silent
        obtain rfl : c = '#' := by simpa using silent
        rw [trim_right_visible '#' rest (by decide)]
        simp
  unfold leadOf
  simp only
  rw [if_pos content]

theorem silent_before (before rest other : List Char) (c d : Char) (first : Text.isWord c = true) (second : Text.isWord d = true) :
    isSilent (before ++ c :: rest) = isSilent (before ++ d :: other) := by
  have no_sign (e : Char) (word : Text.isWord e = true) : e ≠ '#' := by
    rintro rfl
    cases word
  unfold isSilent Text.trimLeft
  rcases Text.run_or_stop Text.isBlank before with blank | ⟨e, member, visible⟩
  · rw [List.dropWhile_append_of_pos blank, List.dropWhile_append_of_pos blank,
      List.dropWhile_cons_of_neg (by simp [Text.word_not_blank c first]),
      List.dropWhile_cons_of_neg (by simp [Text.word_not_blank d second])]
    simp [no_sign c first, no_sign d second]
  · obtain ⟨b, left, dropped, -⟩ := Text.run_stops Text.isBlank before e member visible
    rw [(Text.run_append _ before _ e member visible).2, (Text.run_append _ before _ e member visible).2, dropped]
    rfl

theorem changed_silent (line next : List Char) (changed : Changed calls line next) : isSilent next = isSilent line := by
  cases changed with
  | key before name other after value dash _ named _ target =>
      obtain ⟨c, rest, rfl, starts, -⟩ := key_name_cases name named
      obtain ⟨d, more, rfl, first, -⟩ := written_key_letters other target
      exact silent_before before _ _ d c (Text.isWord_of_isNameStart first) (Text.isWord_of_isNameStart starts)
  | call before name other after _ ink letters _ target =>
      obtain ⟨c, rest, rfl⟩ := List.exists_cons_of_ne_nil ink
      obtain ⟨d, more, rfl, first, -⟩ := written_key_letters other target
      exact silent_before before _ _ d c (Text.isWord_of_isNameStart first) (letters c List.mem_cons_self)

theorem filler_changed (line next : List Char) (filler : IsFiller line) (changed : Changed calls line next) : IsFiller next := by
  have silent := (changed_silent line next changed).trans filler.silent
  cases changed with
  | key before name other after value dash lead _ _ _ =>
      rw [silent_lead _ filler.silent] at lead
      cases lead
  | call before name other after _ _ _ _ target =>
      have one_line := filler.one_line
      simp only [List.any_append, Bool.or_eq_false_iff] at one_line
      refine ⟨?_, silent⟩
      simp only [List.any_append, Bool.or_eq_false_iff]
      exact ⟨one_line.1, written_no_break other target, one_line.2.2⟩

theorem resumes_changed (lines : List (List Char)) (index : Nat) (line next : List Char) (resumes : Resumes lines)
    (stands : lines[index]? = some line) (changed : Changed calls line next) : Resumes (lines.set index next) := by
  have some_text : line ≠ [] := by
    rintro rfl
    generalize empty : ([] : List Char) = text at changed
    cases changed with
    | key before name other after value dash lead named _ _ =>
        obtain ⟨c, rest, rfl, -⟩ := key_name_cases name named
        simp at empty
    | call before name other after _ ink _ _ _ => simp [ink] at empty
  rcases resumes with rfl | speaks
  · cases index with
    | zero => exact absurd (Option.some.inj stands).symm some_text
    | succ index => cases stands
  · cases lines with
    | nil => cases speaks
    | cons first lines =>
        cases index with
        | zero =>
            obtain rfl := Option.some.inj stands
            refine .inr ?_
            rw [List.set_cons_zero, List.head?_cons, Option.any_some, changed_silent first next changed]
            exact speaks
        | succ index => exact .inr speaks

theorem trail_first_ink (trail gap rest : List Char) (c : Char) (behind : Trail trail) (blank : ∀ b ∈ gap, Text.isBlank b = true)
    (solid : Text.isBlank c = false) (split : trail = gap ++ c :: rest) : c = '#' := by
  cases behind with
  | none => simp at split
  | comment width text =>
      rcases append_split (' ' :: List.replicate width ' ') ('#' :: text) gap rest c (by simpa using split) with
        ⟨more, rfl, later⟩ | ⟨more, ahead, -⟩
      · cases more with
        | nil => exact (List.cons.inj later).1.symm
        | cons b more =>
            have mark := blank '#' (by rw [(List.cons.inj later).1]; simp)
            cases mark
      · have member : c ∈ ' ' :: List.replicate width ' ' := by
          rw [ahead]
          simp
        have space : c = ' ' := by
          rcases List.mem_cons.mp member with same | same
          · exact same
          · exact List.eq_of_mem_replicate same
        rw [space] at solid
        cases solid

theorem gap_blank (c : Char) (gap : isGap c = true) : Text.isBlank c = true := by
  rcases Bool.or_eq_true_iff.mp gap with space | tab
  · rw [of_decide_eq_true space]
    rfl
  · rw [of_decide_eq_true tab]
    rfl

theorem key_character_visible (c : Char) (letter : isKeyCharacter c = true) : Text.isBlank c = false := by
  rcases Bool.or_eq_true_iff.mp letter with word | dash
  · exact Text.word_not_blank c word
  · rw [of_decide_eq_true dash]
    rfl

theorem name_in_text (text trail name after : List Char) (behind : Trail trail)
    (letters : ∀ c ∈ name, Text.isBlank c = false) (split : text ++ trail = name ++ after) :
    ∃ rest, text = name ++ rest ∧ after = rest ++ trail := by
  rcases List.append_eq_append_iff.mp split with ⟨more, same, later⟩ | ⟨rest, same, later⟩
  · cases more with
    | nil => exact ⟨[], by simpa using same.symm, by simpa using later.symm⟩
    | cons c more =>
        have visible := letters c (by rw [same]; simp)
        rcases trail_cases trail behind with rfl | ⟨rest, rfl⟩
        · cases later
        · rw [← (List.cons.inj later).1] at visible
          cases visible
  · exact ⟨rest, same, later⟩

theorem key_in_text (text trail name after value : List Char) (behind : Trail trail) (named : isKeyName name = true)
    (colon : KeyTail after value) (split : text ++ trail = name ++ after) :
    ∃ rest inside, text = name ++ rest ∧ after = rest ++ trail ∧ KeyTail rest inside := by
  obtain ⟨c, others, rfl, starts, keys⟩ := key_name_cases name named
  have letters : ∀ d ∈ c :: others, Text.isBlank d = false :=
    List.forall_mem_cons.mpr ⟨Text.word_not_blank c (Text.isWord_of_isNameStart starts),
      fun d member => key_character_visible d (keys d member)⟩
  obtain ⟨rest, rfl, rfl⟩ := name_in_text text trail _ after behind letters split
  obtain ⟨gap, left, same, gaps, wide⟩ := key_tail_colon _ value colon
  rcases append_split rest trail gap left ':' same with ⟨more, rfl, later⟩ | ⟨more, rfl, rfl⟩
  · have mark := trail_first_ink trail more left ':' behind
      (fun b member => gap_blank b (gaps b (List.mem_append_right _ member))) (by decide) later
    cases mark
  · have narrow : more.head?.all isGap = true := by
      cases more with
      | nil => rfl
      | cons d more => exact wide
    exact ⟨_, more.dropWhile isGap, rfl, rfl, key_tail_gap gap more gaps narrow⟩

theorem call_in_text (text trail before name other after : List Char) (behind : Trail trail) (allowed : calls) (ink : name ≠ [])
    (letters : ∀ c ∈ name, Text.isWord c = true) (opens : Opens after) (target : isWrittenKey other = true)
    (split : text ++ trail = before ++ (name ++ after)) :
    (∃ said, Reworded calls text said ∧ before ++ (other ++ after) = said ++ trail) ∨
      ∃ short, Trail short ∧ before ++ (other ++ after) = text ++ short ∧
        (trail.any Text.isLineBreak = false → short.any Text.isLineBreak = false) := by
  rcases List.append_eq_append_iff.mp split with ⟨inside, rfl, later⟩ | ⟨inside, rfl, later⟩
  · right
    cases behind with
    | none => simp [ink] at later
    | comment width rest =>
        obtain ⟨lead, rfl, rfl⟩ := call_behind (' ' :: List.replicate width ' ') [] rest inside name after '#' (by decide)
          (by decide) (by simp) (by simp) ink letters opens (by simpa using later)
        refine ⟨_, .comment width (lead ++ (other ++ after)), by simp, fun one_line => ?_⟩
        simp only [List.any_cons, List.any_append, Bool.or_eq_false_iff] at one_line ⊢
        exact ⟨one_line.1, one_line.2.1, one_line.2.2.1, one_line.2.2.2.1, written_no_break other target,
          one_line.2.2.2.2.2⟩
  · left
    have visible : ∀ c ∈ name, Text.isBlank c = false := fun c member => Text.word_not_blank c (letters c member)
    obtain ⟨rest, rfl, rfl⟩ := name_in_text inside trail name after behind visible later.symm
    obtain ⟨gap, left, same, blank⟩ := opens
    rcases append_split rest trail gap left '(' same with ⟨more, rfl, comment⟩ | ⟨more, rfl, -⟩
    · have mark := trail_first_ink trail more left '(' behind (fun b member => blank b (List.mem_append_right _ member))
        (by decide) comment
      cases mark
    · exact ⟨_, .call before name other _ allowed ink letters ⟨gap, more, rfl, blank⟩ target, by simp⟩

theorem row_lead (column : Nat) (text trail before rest : List Char) (dash : Option Nat) (row : IsRowText text)
    (behind : Trail trail) (lead : leadOf (before ++ rest) = .entry dash before.length)
    (starts : ∃ first others, rest = first :: others ∧ Text.isNameStart first = true)
    (split : before ++ rest = List.replicate column ' ' ++ (text ++ trail)) :
    (before = List.replicate column ' ' ∧ rest = text ++ trail) ∨
      ∃ inside, text = '-' :: ' ' :: inside ∧ before = List.replicate column ' ' ++ ['-', ' '] ∧ rest = inside ++ trail := by
  have legible := row_text_legible text row
  obtain ⟨spaces, -⟩ := spaces_taken column text trail legible.trimmed
  have indent : indentOf (before ++ rest) = column := by rw [split, indentOf, spaces, List.length_replicate]
  have dropped : (before ++ rest).drop column = text ++ trail := by
    rw [split, List.drop_left' List.length_replicate]
  rcases lead_cases _ dash before.length lead with ⟨here, -⟩ | ⟨width, found, here⟩
  · rw [indent] at here
    exact .inl (List.append_inj split (by rw [here, List.length_replicate]))
  · rw [indent] at here found
    rw [dropped] at found
    obtain ⟨first, others, rfl, named⟩ := starts
    have cut (lead left : List Char) (whole : text ++ trail = lead ++ left) (length : width = lead.length) :
        before = List.replicate column ' ' ++ lead ∧ first :: others = left := by
      refine List.append_inj (split.trans ?_) (by rw [here, length]; simp)
      rw [whole, List.append_assoc]
    rcases row_text_start text trail row behind with ⟨c, more, whole, letter⟩ | whole | ⟨more, whole⟩
    · rw [whole] at found
      have no_dash := Text.name_start_ne c '-' letter (by decide)
      simp [dashWidth?, no_dash] at found
    · rw [whole] at found
      obtain ⟨-, nothing⟩ := cut ['-'] [] whole (Option.some.inj found).symm
      cases nothing
    · rw [whole] at found
      have reach : width = 2 + (more.takeWhile (· = ' ')).length := (Option.some.inj found).symm
      cases row with
      | entry key inside written _ =>
          obtain ⟨c, letters, name, letter, -⟩ := written_key_letters key.toList written
          rw [entryText, name] at whole
          exact absurd (List.cons.inj whole).1 (Text.name_start_ne c '-' letter (by decide))
      | item inside readable =>
          rcases spaced_cases inside with ⟨-, nothing⟩ | ⟨ink, same⟩
          · rw [itemText, nothing] at whole
            cases behind with
            | none => cases whole
            | comment count comment =>
                obtain rfl := (List.cons.inj (List.cons.inj whole).2).2
                rw [List.takeWhile_append_of_pos (by simp), List.takeWhile_cons_of_neg (by simp), List.append_nil,
                  List.length_replicate] at reach
                obtain ⟨-, mark⟩ := cut ('-' :: ' ' :: List.replicate count ' ') ('#' :: comment)
                  (by rw [itemText, nothing]; simp) (by rw [reach, List.length_cons, List.length_cons, List.length_replicate]; omega)
                rw [(List.cons.inj mark).1] at named
                cases named
          · rw [itemText, same] at whole ⊢
            obtain rfl := (List.cons.inj (List.cons.inj whole).2).2
            have flush : (inside ++ trail).takeWhile (· = ' ') = [] := (spaces_taken 0 inside trail (readable ink).trimmed).1
            have reach : width = 2 := by
              rw [reach]
              exact congrArg (2 + List.length ·) flush
            obtain ⟨lead, left⟩ := cut ['-', ' '] (inside ++ trail) (by rw [itemText, same]; simp) reach
            exact .inr ⟨inside, rfl, lead, left⟩

theorem row_changed (row : Row) (trail next : List Char) (text : IsRowText row.text) (behind : Trail trail)
    (one_line : trail.any Text.isLineBreak = false)
    (changed : Changed calls (List.replicate row.column ' ' ++ (row.text ++ trail)) next) :
    ∃ said short, next = List.replicate row.column ' ' ++ (said ++ short) ∧ Trail short ∧
      short.any Text.isLineBreak = false ∧ (said = row.text ∨ Reworded calls row.text said) := by
  generalize whole : List.replicate row.column ' ' ++ (row.text ++ trail) = line at changed
  cases changed with
  | key before name other after value dash lead named colon target =>
      obtain ⟨first, others, rfl, starts, -⟩ := key_name_cases name named
      rcases row_lead row.column row.text trail before _ dash text behind lead ⟨first, _, rfl, starts⟩ whole.symm with
        ⟨rfl, same⟩ | ⟨inside, said, rfl, same⟩
      · obtain ⟨rest, inner, here, rfl, shorter⟩ := key_in_text row.text trail _ after value behind named colon same.symm
        refine ⟨other ++ rest, trail, by simp, behind, one_line, .inr ?_⟩
        rw [here]
        exact .key _ other rest inner named shorter target
      · obtain ⟨rest, inner, rfl, rfl, shorter⟩ := key_in_text inside trail _ after value behind named colon same.symm
        refine ⟨'-' :: ' ' :: (other ++ rest), trail, by simp, behind, one_line, .inr ?_⟩
        rw [said]
        exact .item _ _ (.key _ other rest inner named shorter target)
  | call before name other after allowed ink letters opens target =>
      obtain ⟨lead, rfl, split⟩ := behind_spaces row.column _ before name after ink letters whole
      rcases call_in_text row.text trail lead name other after behind allowed ink letters opens target split with
        ⟨said, reworded, same⟩ | ⟨short, comment, same, kept⟩
      · exact ⟨said, trail, by rw [List.append_assoc, same], behind, one_line, .inr reworded⟩
      · exact ⟨row.text, short, by rw [List.append_assoc, same], comment, kept one_line, .inl rfl⟩

-- A document in block style with a value like another one.
def Renders (calls : Prop) (value : Value) (lines : List (List Char)) : Prop :=
  ∃ column rows other, Alike calls value other ∧ BlockRows column other rows ∧ LaidOut rows lines

theorem laid_out_changed (rows : List Row) (lines : List (List Char)) (index : Nat) (line next : List Char)
    (laid : LaidOut rows lines) (are : ∀ row ∈ rows, IsRow row) (stands : lines[index]? = some line)
    (changed : Changed calls line next) :
    ∃ others, LaidOut others (lines.set index next) ∧ (others = rows ∨ ∃ front row back other,
      rows = front ++ row :: back ∧ others = front ++ other :: back ∧ RowChanged calls row other) := by
  induction laid generalizing index with
  | nil => cases stands
  | @filler rows other lines filler laid ih =>
      cases index with
      | zero =>
          obtain rfl := Option.some.inj stands
          exact ⟨rows, .filler next lines (filler_changed other next filler changed) laid, .inl rfl⟩
      | succ index =>
          obtain ⟨others, laid, rest⟩ := ih index are stands
          exact ⟨others, .filler other _ filler laid, rest⟩
  | @row row rows trail lines behind one_line resumes laid ih =>
      obtain ⟨here, others_are⟩ := List.forall_mem_cons.mp are
      cases index with
      | zero =>
          obtain rfl := Option.some.inj stands
          obtain ⟨said, short, rfl, comment, flat, same | reworded⟩ := row_changed row trail next here.text behind one_line changed
          · refine ⟨row :: rows, ?_, .inl rfl⟩
            rw [same]
            exact .row short lines comment flat resumes laid
          · exact ⟨⟨row.column, said, row.body⟩ :: rows, .row short lines comment flat resumes laid,
              .inr ⟨[], row, rows, _, rfl, rfl, .text said reworded⟩⟩
      | succ index =>
          rw [List.getElem?_cons_succ] at stands
          rw [List.set_cons_succ]
          rcases Nat.lt_or_ge index row.body.length with inside | later
          · rw [List.getElem?_append_left inside] at stands
            rw [List.set_append_left index next inside]
            have some_body : row.body ≠ [] := List.ne_nil_of_length_pos (Nat.zero_lt_of_lt inside)
            have again := @LaidOut.row ⟨row.column, row.text, row.body.set index next⟩ rows trail lines behind one_line
              (.inr (resumes.resolve_left some_body)) laid
            exact ⟨_, again, .inr ⟨[], row, rows, _, rfl, rfl, .body index line next stands changed⟩⟩
          · rw [List.getElem?_append_right later] at stands
            rw [List.set_append_right index next later]
            obtain ⟨others, again, rest⟩ := ih (index - row.body.length) others_are stands
            have still := resumes.imp_right fun held => resumes_changed lines _ line next held stands changed
            refine ⟨row :: others, .row trail _ behind one_line still again, ?_⟩
            rcases rest with rfl | ⟨front, other, back, changed, rfl, rfl, how⟩
            · exact .inl rfl
            · exact .inr ⟨row :: front, other, back, changed, rfl, rfl, how⟩

theorem renders_changed (value : Value) (lines : List (List Char)) (index : Nat) (line next : List Char)
    (renders : Renders calls value lines) (stands : lines[index]? = some line) (changed : Changed calls line next) :
    Renders calls value (lines.set index next) := by
  obtain ⟨column, rows, other, same, written, laid⟩ := renders
  obtain ⟨others, again, rfl | ⟨front, row, back, another, rfl, rfl, how⟩⟩ :=
    laid_out_changed rows lines index line next laid (block_rows_are written) stands changed
  · exact ⟨column, others, other, same, written, again⟩
  · obtain ⟨result, kept, rewritten⟩ := block_changed written front row back another rfl how
    exact ⟨column, _, result, alike_trans same result kept, rewritten, again⟩

end PipelineLint.Document

namespace PipelineLint.Repair

open Document

def IsPlain (fix : Fix) : Prop :=
  ∀ target ∈ fix.candidates, isWrittenKey target.toList = true

theorem names_written (category : Category) : ∀ name ∈ Catalog.names category, isWrittenKey name.toList = true := by
  cases category <;> decide +kernel

theorem call_names_written (kind : CallKind) : ∀ name ∈ kind.names, isWrittenKey name.toList = true := by
  cases kind <;> decide +kernel

theorem outline_plain (lines : Lines) : ∀ fix ∈ (fixOutline lines).2, IsPlain fix := by
  unfold fixOutline
  simp only
  split
  · simp
  · split
    · simp
    · exact List.forall_mem_singleton.mpr (List.forall_mem_singleton.mpr (by decide))

theorem components_plain (lines : Lines) : ∀ fix ∈ (fixComponents lines).2, IsPlain fix := by
  unfold fixComponents misnamedComponents
  simp only
  intro fix member
  obtain ⟨⟨site, name⟩, found, rfl⟩ := List.mem_map.mp member
  obtain ⟨⟨place, category⟩, -, named⟩ := List.mem_filterMap.mp found
  obtain ⟨target, replaced, same⟩ := Option.map_eq_some_iff.mp named
  obtain ⟨-, rfl⟩ := Prod.mk.inj same
  exact List.forall_mem_singleton.mpr (names_written category target
    (List.contains_iff_mem.mp (Catalog.component_replacement_known place.key target category replaced)))

theorem calls_plain (kind : CallKind) (lines : Lines) : ∀ fix ∈ (fixCalls kind lines).2, IsPlain fix := by
  unfold fixCalls misnamedCalls
  simp only
  intro fix member
  obtain ⟨⟨call, name⟩, found, rfl⟩ := List.mem_map.mp member
  obtain ⟨place, -, named⟩ := List.mem_filterMap.mp found
  obtain ⟨target, replaced, same⟩ := Option.map_eq_some_iff.mp named
  obtain ⟨-, rfl⟩ := Prod.mk.inj same
  exact List.forall_mem_singleton.mpr (call_names_written kind target (Catalog.call_replacement_listed place.name target kind replaced))

theorem passes_plain (limit : Nat) (lines : Lines) : ∀ fix ∈ (passes limit lines).2.1, IsPlain fix := by
  induction limit generalizing lines with
  | zero => simp [passes]
  | succ limit ih =>
      by_cases settled : Settled lines
      · rw [passes_settled limit lines settled]
        simp
      · rw [passes_next limit lines settled, pass_eq lines]
        simp only [List.forall_mem_append]
        exact ⟨⟨⟨⟨outline_plain _, components_plain _⟩, calls_plain .method _⟩, calls_plain .function _⟩, ih _⟩

def IsCallFix (fix : Fix) : Prop :=
  ∃ kind, fix.kind = .call kind

theorem replaced_change (calls : Prop) (fix : Fix) (lines next : Lines) (plain : IsPlain fix) (allowed : IsCallFix fix → calls)
    (replaced : Replaces fix lines next) :
    ∃ index line changed, lines[index]? = some line ∧ next = lines.set index changed ∧ Changed calls line changed := by
  obtain ⟨index, before, name, after, target, -, -, sure, whole, place, stands⟩ := replaced
  have written := plain target (by rw [sure]; exact List.mem_singleton_self target)
  refine ⟨index, _, _, stands, rfl, ?_⟩
  obtain ⟨⟨first, rest, rfl, starts⟩, letters, -, -⟩ := whole
  have keyed (lead : ∃ dash, leadOf (before ++ ((first :: rest) ++ after)) = .entry dash before.length)
      (keys : ∀ c ∈ first :: rest, isKeyCharacter c = true) (behind : ∃ value, KeyTail after value) :
      Changed calls (before ++ ((first :: rest) ++ after)) (before ++ (target.toList ++ after)) := by
    obtain ⟨dash, lead⟩ := lead
    obtain ⟨value, behind⟩ := behind
    refine .key before _ target.toList after value dash lead ?_ behind written
    simp only [isKeyName, starts, Bool.true_and, List.all_eq_true]
    exact (List.forall_mem_cons.mp keys).2
  cases kind : fix.kind with
  | call called =>
      rw [kind] at letters place
      exact .call before _ target.toList after (allowed ⟨called, kind⟩) (by simp) letters place written
  | _ =>
      rw [kind] at letters place
      exact keyed place.1 letters place.2

theorem edits_render (calls : Prop) (fixes : List Fix) (lines last : Lines) (value : Value) (plain : ∀ fix ∈ fixes, IsPlain fix)
    (allowed : ∀ fix ∈ fixes, IsCallFix fix → calls) (edits : Edits fixes lines last) (renders : Renders calls value lines) :
    Renders calls value last := by
  induction edits with
  | nil => exact renders
  | cons fix fixes lines next last replaced _ ih =>
      obtain ⟨here, others⟩ := List.forall_mem_cons.mp plain
      obtain ⟨free, later⟩ := List.forall_mem_cons.mp allowed
      obtain ⟨index, line, changed, stands, rfl, change⟩ := replaced_change calls fix lines next here free replaced
      exact ih others later (renders_changed value lines index line changed renders stands change)

theorem laid_out_are_lines (rows : List Row) (lines : Lines) (laid : LaidOut rows lines)
    (are : ∀ row ∈ rows, IsRow row) (some_row : rows ≠ []) : AreLines lines := by
  have no_feed (line : List Char) (flat : line.any Text.isLineBreak = false) : '\n' ∉ line := fun member => by
    have broken := List.any_eq_false.mp flat '\n' member
    contradiction
  constructor
  · rintro rfl
    cases laid
    contradiction
  · clear some_row
    induction laid with
    | nil => simp
    | filler line lines filler _ ih => exact List.forall_mem_cons.mpr ⟨no_feed line filler.one_line, ih are⟩
    | @row row rows trail lines _ one_line _ _ ih =>
        obtain ⟨here, others⟩ := List.forall_mem_cons.mp are
        refine List.forall_mem_cons.mpr ⟨no_feed _ (row_one_line row trail here.text one_line), List.forall_mem_append.mpr ⟨?_, ih others⟩⟩
        exact fun line member => no_feed line (flat_one_line line (here.flat line member))

end PipelineLint.Repair

namespace PipelineLint

open Document Repair

theorem laid_out_read (column : Nat) (value : Value) (rows : List Row) (lines : Lines) (written : BlockRows column value rows)
    (laid : LaidOut rows lines) : readDocument (String.ofList (Text.joinFeeds lines)) = .ok (merged value) := by
  rw [readDocument, String.toList_ofList]
  exact laid_out_value column value rows lines written laid

theorem written_are_lines (column : Nat) (value : Value) (rows : List Row) (lines : Lines) (written : BlockRows column value rows)
    (laid : LaidOut rows lines) : AreLines lines := by
  have some_row : rows ≠ [] := by
    obtain ⟨text, body, more, rfl⟩ := block_rows_first column value rows written
    simp
  exact laid_out_are_lines rows lines laid (block_rows_are written) some_row

theorem repaired_renders (calls : Prop) (column : Nat) (value : Value) (rows : List Row) (lines : Lines)
    (written : BlockRows column value rows) (laid : LaidOut rows lines) (count : Nat)
    (allowed : ∀ fix ∈ (repairWithin count (String.ofList (Text.joinFeeds lines))).fixes, IsCallFix fix → calls) :
    (repairWithin count (String.ofList (Text.joinFeeds lines))).text = String.ofList (Text.joinFeeds (passed count lines)) ∧
      Renders calls value (passed count lines) := by
  have are := written_are_lines column value rows lines written laid
  have split : Text.splitFeeds (String.ofList (Text.joinFeeds lines)).toList = lines := by
    rw [String.toList_ofList]
    exact split_join_feeds lines are
  rw [repair_within_eq] at allowed ⊢
  simp only [split, passes_lines] at allowed ⊢
  refine ⟨trivial, ?_⟩
  rw [← passes_lines]
  exact edits_render calls _ lines _ value (passes_plain count lines) allowed (passes_edits count lines are)
    ⟨column, rows, value, alike_refl value, written, laid⟩

-- A repair of a document in block style leaves one that reads as the same data, where the entries of keys that have got
-- the same name become one: nothing is lost if and only if no corrected key meets another one.
theorem written_data_kept_iff (value : Value) (writable : Writable value) (column : Nat) (rows : List Row)
    (lines : List (List Char)) (written : BlockRows column value rows) (laid : LaidOut rows lines) (limit : Int)
    (some_pass : 1 ≤ limit) :
    readDocument (String.ofList (Text.joinFeeds lines)) = .ok value ∧
      ∃ repaired renamed, repair (String.ofList (Text.joinFeeds lines)) limit = .ok repaired ∧
        readDocument repaired.text = .ok (merged renamed) ∧ SameData value renamed ∧
        (SameData value (merged renamed) ↔ Distinct renamed) := by
  obtain ⟨count, rfl⟩ := Int.eq_ofNat_of_zero_le (Int.le_trans (by decide) some_pass)
  obtain ⟨text, _, _, renamed, alike, written_again, laid_again⟩ :=
    repaired_renders True column value rows lines written laid count (fun _ _ _ => trivial)
  have same := alike_same alike
  refine ⟨?_, _, renamed, repair_ok _ count (by omega), text ▸ laid_out_read _ renamed _ _ written_again laid_again, same,
    same_merged_iff value renamed same⟩
  rw [laid_out_read column value rows lines written laid, writable_merged value writable]

def siblings (key : String) : Value :=
  .map [(.str "input", .map [(.str "stdin", .map [])]),
    (.str "output", .map [(.str "stdout", .map []), (.str key, .int 5)])]

def siblingRows (key : String) : List Row :=
  [⟨0, entryText "input" [], []⟩, ⟨2, entryText "stdin" ['\x7b', '\x7d'], []⟩, ⟨0, entryText "output" [], []⟩,
    ⟨2, entryText "stdout" ['\x7b', '\x7d'], []⟩, ⟨2, entryText key ['5'], []⟩]

def siblingLines (key : String) : List (List Char) :=
  ((siblingRows key).map fun row => List.replicate row.column ' ' ++ (row.text ++ [])) ++ [[]]

theorem siblings_written (key : String) (named : isWrittenKey key.toList = true) :
    BlockRows 0 (siblings key) (siblingRows key) := by
  refine .map (by simp) (.cons [_, _] [_, _, _] (by decide) (.nested 2 [_] (by decide) ?_)
    (.cons [_, _, _] [] (by decide) (.nested 2 [_, _] (by decide) ?_) .nil))
  · exact .map (by simp) (.cons [_] [] (by decide) (.inline _ .noEntries) .nil)
  · exact .map (by simp) (.cons [_] [_] (by decide) (.inline _ .noEntries)
      (.cons [_] [] named (.inline _ (.int 5 (by decide))) .nil))

theorem siblings_laid_out (key : String) : LaidOut (siblingRows key) (siblingLines key) :=
  .row [] _ .none rfl (.inl rfl) (.row [] _ .none rfl (.inl rfl) (.row [] _ .none rfl (.inl rfl) (.row [] _ .none rfl (.inl rfl)
    (.row [] _ .none rfl (.inl rfl) (.filler [] _ ⟨rfl, rfl⟩ .nil)))))

theorem siblings_read (key : String) (named : isWrittenKey key.toList = true) :
    readDocument (String.ofList (Text.joinFeeds (siblingLines key))) = .ok (merged (siblings key)) :=
  laid_out_read 0 (siblings key) (siblingRows key) (siblingLines key) (siblings_written key named)
    (siblings_laid_out key)

theorem siblings_writable (key : String) (named : isWrittenKey key.toList = true) (other : key ≠ "stdout") :
    Writable (siblings key) := by
  have empty : Writable (.map []) := .inline _ _ .noEntries
  have input := single_writable "stdin" _ (by decide) empty
  have output := pair_writable "stdout" key _ (.int 5) (by decide) named other.symm empty (.inline _ _ (.int 5 (by decide)))
  exact pair_writable "input" "output" _ _ (by decide) (by decide) (by decide) input output

theorem written_data_kept_iff_siblings : Writable (siblings "console") ∧ (1 : Int) ≤ defaultLimit ∧
    ∃ repaired renamed, repair (String.ofList (Text.joinFeeds (siblingLines "console"))) defaultLimit = .ok repaired ∧
      readDocument repaired.text = .ok (merged renamed) ∧ SameData (siblings "console") renamed ∧
      (SameData (siblings "console") (merged renamed) ↔ Distinct renamed) :=
  have writable := siblings_writable "console" (by decide) (by decide)
  ⟨writable, by decide,
    (written_data_kept_iff (siblings "console") writable 0 (siblingRows "console") (siblingLines "console")
      (siblings_written "console" (by decide)) (siblings_laid_out "console") defaultLimit (by decide)).2⟩

-- The later entry takes the place of the type, and the mapping has lost an entry.
theorem sibling_lost :
    readDocument "input:\n  stdin: \x7b\x7d\noutput:\n  stdout: \x7b\x7d\n  console: 5\n" = .ok (siblings "console") ∧
      ∃ repaired result,
        repair "input:\n  stdin: \x7b\x7d\noutput:\n  stdout: \x7b\x7d\n  console: 5\n" defaultLimit = .ok repaired ∧
        readDocument repaired.text = .ok result ∧ ¬ SameData (siblings "console") result := by
  have written : "input:\n  stdin: \x7b\x7d\noutput:\n  stdout: \x7b\x7d\n  console: 5\n" =
      String.ofList (Text.joinFeeds (siblingLines "console")) := by decide
  have repaired : (repairWithin 10 (String.ofList (Text.joinFeeds (siblingLines "console")))).text =
      String.ofList (Text.joinFeeds (siblingLines "stdout")) := by decide +kernel
  rw [written]
  refine ⟨siblings_read "console" (by decide), _, _, repair_default _, repaired ▸ siblings_read "stdout" (by decide), ?_⟩
  intro same
  have lengths : SameEntries [(.str "stdout", .map []), (.str "console", .int 5)] [(.str "stdout", .int 5)] := by
    cases same with
    | map entries =>
        cases entries with
        | cons _ entries =>
            cases entries with
            | cons output _ =>
                cases output with
                | map inside => exact inside
  cases lengths with
  | cons _ rest => cases rest

end PipelineLint
