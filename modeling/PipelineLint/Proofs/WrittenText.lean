import PipelineLint.Document.BlockScalar
import PipelineLint.Proofs.OutsideQuotes
import PipelineLint.Proofs.Runs
import PipelineLint.Proofs.Written

set_option autoImplicit false

namespace PipelineLint.Document

structure IsTrimmed (text : List Char) : Prop where
  ink : text ≠ []
  left : Text.trimLeft text = text
  right : Text.trimRight text = text

theorem trim_left_of_head (c : Char) (rest : List Char) (visible : Text.isBlank c = false) :
    Text.trimLeft (c :: rest) = c :: rest := by
  simp [Text.trimLeft, visible]

theorem trimmed_head (text : List Char) (trimmed : IsTrimmed text) :
    ∃ c rest, text = c :: rest ∧ Text.isBlank c = false := by
  obtain ⟨ink, left, -⟩ := trimmed
  cases text with
  | nil => contradiction
  | cons c rest =>
      refine ⟨c, rest, rfl, ?_⟩
      cases blank : Text.isBlank c with
      | false => rfl
      | true =>
          have shorter := (List.dropWhile_sublist (l := rest) Text.isBlank).length_le
          have same := congrArg List.length left
          simp only [Text.trimLeft, List.dropWhile_cons, blank, if_true, List.length_cons] at same
          omega

theorem trimmed_left (text rest : List Char) (trimmed : IsTrimmed text) :
    Text.trimLeft (text ++ rest) = text ++ rest := by
  obtain ⟨c, others, rfl, visible⟩ := trimmed_head text trimmed
  exact trim_left_of_head c (others ++ rest) visible

theorem trimmed_trim (text : List Char) (trimmed : IsTrimmed text) : Text.trim text = text := by
  rw [Text.trim, trimmed.left, trimmed.right]

theorem trim_right_visible (c : Char) (rest : List Char) (visible : Text.isBlank c = false) :
    Text.trimRight (c :: rest) = c :: Text.trimRight rest := by
  unfold Text.trimRight
  rw [Text.dropTrailing]
  cases Text.dropTrailing Text.isBlank rest <;> simp [visible]

theorem trim_ink (text : List Char) (c : Char) (member : c ∈ text) (visible : Text.isBlank c = false) :
    Text.trim text ≠ [] := by
  obtain ⟨first, rest, left, inked⟩ := Text.run_stops Text.isBlank text c member visible
  rw [Text.trim, Text.trimLeft, left, trim_right_visible first rest inked]
  simp

theorem trimmed_letter (c : Char) (visible : Text.isBlank c = false) : IsTrimmed [c] :=
  ⟨by simp, trim_left_of_head c [] visible, trim_right_visible c [] visible⟩

theorem trimmed_append (c : Char) (front back : List Char) (visible : Text.isBlank c = false)
    (trimmed : IsTrimmed back) : IsTrimmed (c :: (front ++ back)) := by
  refine ⟨by simp, trim_left_of_head c _ visible, ?_⟩
  rw [← List.cons_append, Text.trim_right_append _ _ (by rw [trimmed.right]; exact trimmed.ink), trimmed.right]

theorem trimmed_of_visible (text : List Char) (ink : text ≠ []) (visible : ∀ c ∈ text, Text.isBlank c = false) :
    IsTrimmed text := by
  rcases List.eq_nil_or_concat text with rfl | ⟨front, last, rfl⟩
  · contradiction
  · rw [List.concat_eq_append] at visible ⊢
    have ends := trimmed_letter last (visible last (by simp))
    cases front with
    | nil => exact ends
    | cons first inside => exact trimmed_append first inside [last] (visible first (by simp)) ends

theorem trim_right_blanks (text blanks : List Char) (blank : blanks.all Text.isBlank = true) :
    Text.trimRight (text ++ blanks) = Text.trimRight text := by
  induction text with
  | nil => exact (Text.dropTrailing_eq_nil_iff _ _).mpr blank
  | cons c text ih =>
      unfold Text.trimRight at ih ⊢
      rw [List.cons_append, Text.dropTrailing, Text.dropTrailing, ih]

theorem trail_trimmed (trail : List Char) (behind : Trail trail) : Trail (Text.trimRight trail) := by
  cases behind with
  | none => exact .none
  | comment width text =>
      have mark := trim_right_visible '#' text (by decide)
      rw [← List.cons_append, Text.trim_right_append _ _ (by simp [mark]), mark]
      exact .comment width (Text.trimRight text)

theorem content_with_trail (text trail : List Char) (trimmed : IsTrimmed text) (behind : Trail trail) :
    ∃ short, Trail short ∧ Text.trim (text ++ trail) = text ++ short := by
  rw [Text.trim, trimmed_left text trail trimmed]
  by_cases blank : Text.trimRight trail = []
  · refine ⟨[], .none, ?_⟩
    have nothing : trail = [] := by
      cases behind with
      | none => rfl
      | comment width text =>
          have all := (Text.dropTrailing_eq_nil_iff _ _).mp blank
          exact absurd (List.all_eq_true.mp all '#' (by simp)) (by decide)
    rw [nothing, List.append_nil, trimmed.right]
  · exact ⟨Text.trimRight trail, trail_trimmed trail behind, Text.trim_right_append text trail blank⟩

-- The search for a comment passes over a text that stands behind a certain character.
def Passed (before : Option Char) (text : List Char) : Prop :=
  ∀ rest, beforeComment? none before (text ++ rest) =
    (beforeComment? none (text.getLast?.or before) rest).map (text ++ ·)

theorem flat_one_line (text : List Char) (flat : ∀ c ∈ text, isFlat c = true) : text.any Text.isLineBreak = false := by
  refine List.any_eq_false.mpr fun c member => ?_
  have here := flat c member
  simp only [isFlat, Bool.and_eq_true, Bool.not_eq_true'] at here
  simp [here.2]

def isUnmarked (c : Char) : Bool :=
  c ≠ '"' && c ≠ '\'' && c ≠ '#'

theorem passed_nil (before : Option Char) : Passed before [] := by
  intro rest
  simp

theorem passed_cons (before : Option Char) (c : Char) (text : List Char) (unmarked : isUnmarked c = true)
    (others : Passed (some c) text) : Passed before (c :: text) := by
  intro rest
  simp only [isUnmarked, Bool.and_eq_true, decide_eq_true_eq] at unmarked
  obtain ⟨⟨no_double, no_single⟩, no_sign⟩ := unmarked
  simp only [List.cons_append, beforeComment?, no_double, no_single, no_sign, decide_false, Bool.or_self,
    Bool.false_and, Bool.false_eq_true, if_false, others rest, Option.map_map]
  rw [last_cons]
  rfl

theorem passed_unmarked (before : Option Char) (text : List Char) (unmarked : ∀ c ∈ text, isUnmarked c = true) :
    Passed before text := by
  induction text generalizing before with
  | nil => exact passed_nil before
  | cons c text ih =>
      obtain ⟨here, others⟩ := List.forall_mem_cons.mp unmarked
      exact passed_cons before c text here (ih (some c) others)

theorem passed_append (before : Option Char) (first second : List Char) (front : Passed before first)
    (back : Passed (first.getLast?.or before) second) : Passed before (first ++ second) := by
  intro rest
  rw [List.append_assoc, front, back, Option.map_map, List.getLast?_append, Option.or_assoc]
  congr 1
  funext kept
  simp

theorem passed_quoted (quote : Char) (quotes : isQuote quote = true) (before : Option Char) (inside : List Char)
    (opens : opensQuote before = true) (no_quote : quote ∉ inside) : Passed before (quote :: (inside ++ [quote])) := by
  intro rest
  have last : (quote :: (inside ++ [quote])).getLast?.or before = some quote := by
    rw [← List.cons_append, List.getLast?_concat]
    rfl
  have opening : ((decide (quote = '"') || decide (quote = '\'')) && opensQuote before) = true := by
    rw [opens, Bool.and_true]
    exact quotes
  rw [last, List.cons_append, List.append_assoc, List.singleton_append, beforeComment?, if_pos opening,
    before_comment_inside quote inside rest no_quote, Option.map_map]
  congr 1
  funext kept
  simp

-- A text on one line without tabs and without blanks at its ends, passed over where a text may start.
structure IsLegible (text : List Char) : Prop where
  trimmed : IsTrimmed text
  flat : ∀ c ∈ text, isFlat c = true
  passed : ∀ before, opensQuote before = true → Passed before text

theorem comment_behind_spaces (before : Option Char) (width : Nat) (text : List Char) :
    beforeComment? none before (' ' :: (List.replicate width ' ' ++ '#' :: text)) =
      some (' ' :: List.replicate width ' ') := by
  have spaces : beforeComment? none (some ' ') (List.replicate width ' ' ++ '#' :: text) =
      some (List.replicate width ' ') := by
    induction width with
    | zero => simp [beforeComment?, opensComment]
    | succ width ih => simp [List.replicate_succ, beforeComment?, ih]
  simp [beforeComment?, spaces]

theorem strip_trail (text trail : List Char) (legible : IsLegible text) (behind : Trail trail) :
    stripComment (text ++ trail) = text := by
  have pass := legible.passed none rfl trail
  unfold stripComment
  rw [pass]
  cases behind with
  | none => simp [beforeComment?]
  | comment width rest =>
      simp only [comment_behind_spaces, Option.map_some]
      rw [trim_right_blanks text _ (by simp [(by decide : Text.isBlank ' ' = true)]), legible.trimmed.right]

theorem key_letter_ne (c other : Char) (letter : isKeyLetter c = true) (plain : isKeyLetter other = false) : c ≠ other := by
  intro same
  rw [same, plain] at letter
  cases letter

theorem key_letter_word (c : Char) (letter : isKeyLetter c = true) : Text.isWord c = true := by
  rcases Bool.or_eq_true_iff.mp letter with starts | digit
  · exact Text.isWord_of_isNameStart starts
  · have code := Char.isDigit_iff_toNat.mp digit
    have small : c.toNat < 128 := Nat.lt_of_le_of_lt code.2 (by decide)
    simp [Text.isWord, small, Char.isAlphanum, digit]

theorem key_letter_visible (c : Char) (letter : isKeyLetter c = true) : Text.isBlank c = false :=
  Text.word_not_blank c (key_letter_word c letter)

theorem key_letter_unmarked (c : Char) (letter : isKeyLetter c = true) : isUnmarked c = true := by
  simp [isUnmarked, key_letter_ne c _ letter (by decide : isKeyLetter '"' = false),
    key_letter_ne c _ letter (by decide : isKeyLetter '\'' = false),
    key_letter_ne c _ letter (by decide : isKeyLetter '#' = false)]

theorem written_key_letters (key : List Char) (written : isWrittenKey key = true) :
    ∃ first rest, key = first :: rest ∧ Text.isNameStart first = true ∧ ∀ c ∈ key, isKeyLetter c = true := by
  cases key with
  | nil => cases written
  | cons first rest =>
      simp only [isWrittenKey, Bool.and_eq_true, List.all_eq_true] at written
      exact ⟨first, rest, rfl, written.1, List.forall_mem_cons.mpr ⟨by simp [isKeyLetter, written.1], written.2⟩⟩

theorem nat_text_digits (n : Nat) : ∀ c ∈ Numeral.natText n, c.isDigit = true := by
  intro c member
  exact Nat.isDigit_of_mem_toDigits (by decide) (by decide) member

theorem int_text_cases (i : Int) : ∃ sign, (sign = [] ∨ sign = ['-']) ∧ Numeral.intText i = sign ++ Numeral.natText i.natAbs := by
  unfold Numeral.intText
  split
  · exact ⟨['-'], .inr rfl, rfl⟩
  · exact ⟨[], .inl rfl, rfl⟩

theorem visible_flat (c : Char) (visible : Text.isBlank c = false) : isFlat c = true := by
  have no_tab : c ≠ '\t' := by
    rintro rfl
    cases visible
  have no_break : Text.isLineBreak c = false := by
    cases ends : Text.isLineBreak c with
    | false => rfl
    | true =>
        rw [Text.isBlank_of_isLineBreak ends] at visible
        cases visible
  simp [isFlat, no_tab, no_break]

theorem legible_of_plain (text : List Char) (ink : text ≠ [])
    (plain : ∀ c ∈ text, Text.isBlank c = false ∧ isUnmarked c = true) : IsLegible text :=
  ⟨trimmed_of_visible text ink fun c member => (plain c member).1, fun c member => visible_flat c (plain c member).1,
    fun before _ => passed_unmarked before text fun c member => (plain c member).2⟩

theorem quoted_legible (quote : Char) (quotes : isQuote quote = true) (inside : List Char)
    (each : ∀ c ∈ inside, c ≠ quote ∧ isFlat c = true) : IsLegible (quote :: (inside ++ [quote])) := by
  have solid : Text.isBlank quote = false := by
    rcases Bool.or_eq_true_iff.mp quotes with same | same <;> rw [of_decide_eq_true same] <;> rfl
  have flat := visible_flat quote solid
  exact ⟨trimmed_append quote inside [quote] solid (trimmed_letter quote solid),
    List.forall_mem_cons.mpr ⟨flat, List.forall_mem_append.mpr ⟨fun c member => (each c member).2, List.forall_mem_singleton.mpr flat⟩⟩,
    fun before opens => passed_quoted quote quotes before inside opens fun member => (each quote member).1 rfl⟩

theorem plain_character (c : Char) (plain : isPlain c = true) : isFlat c = true ∧ isUnmarked c = true := by
  simp only [isPlain, isSingle, Bool.and_eq_true, decide_eq_true_eq] at plain
  exact ⟨by simp [isFlat, plain], by simp [isUnmarked, plain]⟩

theorem plain_start (text : List Char) (plain : IsPlainText text) : ∃ c rest, text = c :: rest ∧ Text.isNameStart c = true := by
  have starts := plain.starts
  cases text with
  | nil => cases starts
  | cons c rest => exact ⟨c, rest, rfl, starts⟩

theorem colons_behind (front rest : List Char) (colons : colonsInside (front ++ ':' :: rest) = true) :
    ∃ c more, rest = c :: more ∧ Text.isBlank c = false := by
  induction front with
  | nil =>
      cases rest with
      | nil => cases colons
      | cons c more => exact ⟨c, more, rfl, by simpa [colonsInside] using (Bool.and_eq_true_iff.mp colons).1⟩
  | cons d front ih =>
      rw [List.cons_append, colonsInside, Bool.and_eq_true] at colons
      exact ih colons.2

theorem plain_legible (text : List Char) (plain : IsPlainText text) : IsLegible text := by
  have each (c : Char) (member : c ∈ text) := plain_character c (List.all_eq_true.mp plain.plain c member)
  refine ⟨?_, fun c member => (each c member).1, fun before _ => passed_unmarked before text fun c member => (each c member).2⟩
  have ends := plain.ends
  obtain ⟨c, rest, rfl, starts⟩ := plain_start text plain
  have first : Text.isBlank c = false := Text.word_not_blank c (Text.isWord_of_isNameStart starts)
  rcases List.eq_nil_or_concat' rest with rfl | ⟨front, last, rfl⟩
  · exact trimmed_letter c first
  · rw [← List.cons_append, List.getLast?_concat, Option.any_some] at ends
    exact trimmed_append c front [last] first (trimmed_letter last ends)

theorem spelled_legible (s : Scalar) (text : List Char) (spelled : Spelled s text) : IsLegible text := by
  cases spelled with
  | yes => exact legible_of_plain _ (by decide) (by decide)
  | no => exact legible_of_plain _ (by decide) (by decide)
  | int i _ =>
      obtain ⟨sign, signs, split⟩ := int_text_cases i
      refine legible_of_plain _ (by simp [split, Numeral.natText, Nat.toDigits_ne_nil]) fun c member => ?_
      rw [split] at member
      rcases List.mem_append.mp member with dash | digit
      · rcases signs with rfl | rfl
        · cases dash
        · rw [List.mem_singleton.mp dash]
          decide
      · have letter : isKeyLetter c = true := by simp [isKeyLetter, nat_text_digits _ c digit]
        exact ⟨key_letter_visible c letter, key_letter_unmarked c letter⟩
  | str s writable =>
      refine quoted_legible '"' rfl s.toList fun c member => ?_
      have written := List.all_eq_true.mp writable c member
      simp only [isWritable, Bool.and_eq_true, decide_eq_true_eq] at written
      exact ⟨written.1.1.1, by simp [isFlat, written]⟩
  | single s written =>
      refine quoted_legible '\'' rfl s.toList fun c member => ?_
      have single := List.all_eq_true.mp written c member
      simp only [isSingle, Bool.and_eq_true, decide_eq_true_eq] at single
      exact ⟨single.1.1, by simp [isFlat, single]⟩
  | plain s plain => exact plain_legible s.toList plain

theorem flow_item_legible (s : Scalar) (text : List Char) (item : FlowItem s text) : IsLegible text := by
  cases item with
  | null => exact legible_of_plain _ (by decide) (by decide)
  | spelled spelled _ => exact spelled_legible s text spelled

theorem flow_items_flat (items : List Value) (text : List Char) (listed : FlowItems items text) :
    ∀ c ∈ text, isFlat c = true := by
  induction listed with
  | last item => exact (flow_item_legible _ _ item).flat
  | more item _ others =>
      refine List.forall_mem_append.mpr ⟨(flow_item_legible _ _ item).flat, ?_⟩
      exact List.forall_mem_cons.mpr ⟨by decide, List.forall_mem_cons.mpr ⟨by decide, others⟩⟩

theorem flow_items_passed (items : List Value) (text : List Char) (listed : FlowItems items text) (before : Option Char)
    (opens : opensQuote before = true) : Passed before text := by
  induction listed generalizing before with
  | last item => exact (flow_item_legible _ _ item).passed before opens
  | more item _ others =>
      refine passed_append before _ _ ((flow_item_legible _ _ item).passed before opens) ?_
      exact passed_cons _ ',' _ (by decide) (passed_cons _ ' ' _ (by decide) (others (some ' ') rfl))

theorem inline_legible (value : Value) (text : List Char) (inline : Inline value text) (ink : text ≠ []) :
    IsLegible text := by
  cases inline with
  | null => contradiction
  | scalar spelled => exact spelled_legible _ text spelled
  | noItems => exact legible_of_plain _ ink (by decide)
  | noEntries => exact legible_of_plain _ ink (by decide)
  | @items items text listed =>
      refine ⟨trimmed_append '[' text [']'] (by decide) (trimmed_letter ']' (by decide)), ?_, fun before _ => ?_⟩
      · refine List.forall_mem_cons.mpr ⟨by decide, List.forall_mem_append.mpr ⟨flow_items_flat items text listed, by decide⟩⟩
      · refine passed_cons before '[' _ (by decide) (passed_append _ text [']'] ?_ (passed_unmarked _ _ (by decide)))
        exact flow_items_passed items text listed (some '[') rfl

theorem spaced_cases (text : List Char) : (text = [] ∧ spaced text = []) ∨ (text ≠ [] ∧ spaced text = ' ' :: text) := by
  cases text with
  | nil => exact .inl ⟨rfl, rfl⟩
  | cons c rest => exact .inr ⟨by simp, rfl⟩

theorem legible_spaced (lead text : List Char) (ink : lead ≠ [])
    (plain : ∀ c ∈ lead, Text.isBlank c = false ∧ isUnmarked c = true) (legible : text ≠ [] → IsLegible text) :
    IsLegible (lead ++ spaced text) := by
  have front := legible_of_plain lead ink plain
  rcases spaced_cases text with ⟨-, nothing⟩ | ⟨some_text, behind⟩
  · rw [nothing, List.append_nil]
    exact front
  · rw [behind]
    obtain ⟨ends, flat, passed⟩ := legible some_text
    refine ⟨?_, List.forall_mem_append.mpr ⟨front.flat, List.forall_mem_cons.mpr ⟨by decide, flat⟩⟩, fun before _ => ?_⟩
    · obtain ⟨c, rest, rfl, visible⟩ := trimmed_head lead front.trimmed
      have same : c :: rest ++ ' ' :: text = c :: ((rest ++ [' ']) ++ text) := by simp
      rw [same]
      exact trimmed_append c (rest ++ [' ']) text visible ends
    · exact passed_append before lead _ (passed_unmarked before lead fun c member => (plain c member).2)
        (passed_cons _ ' ' text (by decide) (passed (some ' ') rfl))

theorem entry_legible (key : String) (text : List Char) (written : isWrittenKey key.toList = true)
    (legible : text ≠ [] → IsLegible text) : IsLegible (entryText key text) := by
  obtain ⟨-, -, -, -, letters⟩ := written_key_letters key.toList written
  have same : entryText key text = (key.toList ++ [':']) ++ spaced text := by simp [entryText]
  rw [same]
  refine legible_spaced _ text (by simp) (List.forall_mem_append.mpr ⟨fun c member => ?_, by decide⟩) legible
  exact ⟨key_letter_visible c (letters c member), key_letter_unmarked c (letters c member)⟩

theorem item_legible (text : List Char) (legible : text ≠ [] → IsLegible text) : IsLegible (itemText text) :=
  legible_spaced ['-'] text (by simp) (by decide) legible

theorem take_plain_key (before : Char) (name after said : List Char) (letters : ∀ c ∈ name, isKeyLetter c = true)
    (colon : afterColon? after = some said) : takePlainKey? before (name ++ ':' :: after) = some (name, said) := by
  induction name generalizing before with
  | nil => simp [takePlainKey?, colon]
  | cons c name ih =>
      obtain ⟨letter, others⟩ := List.forall_mem_cons.mp letters
      have no_colon := key_letter_ne c ':' letter (by decide)
      have no_sign := key_letter_ne c '#' letter (by decide)
      simp [takePlainKey?, no_colon, no_sign, ih c others]

theorem take_plain_key_none (before : Char) (text : List Char) (no_colon : ':' ∉ text) : takePlainKey? before text = none := by
  induction text generalizing before with
  | nil => rfl
  | cons c text ih =>
      simp only [List.mem_cons, not_or] at no_colon
      simp [takePlainKey?, Ne.symm no_colon.1, ih c no_colon.2]

theorem name_start_opens (c : Char) (starts : Text.isNameStart c = true) : opensPlainKey c = true := by
  have letter : isKeyLetter c = true := by simp [isKeyLetter, starts]
  have outside : ¬ c ∈ Char.ofNat 96 :: "-?:,[]\x7b\x7d#&*!|>'\"%@".toList := by
    intro member
    have none_starts : ∀ d ∈ Char.ofNat 96 :: "-?:,[]\x7b\x7d#&*!|>'\"%@".toList, Text.isNameStart d = false := by decide
    rw [none_starts c member] at starts
    cases starts
  simp only [opensPlainKey, key_letter_visible c letter, List.contains_eq_mem, outside, decide_false, Bool.not_false,
    Bool.and_self]

theorem behind_colon (text trail : List Char) (legible : text ≠ [] → IsLegible text) (behind : Trail trail) :
    ∃ said, afterColon? (spaced text ++ trail) = some said ∧ Text.trim (stripComment said) = text := by
  rcases spaced_cases text with ⟨rfl, nothing⟩ | ⟨ink, some_text⟩
  · rw [nothing, List.nil_append]
    cases behind with
    | none => exact ⟨[], rfl, rfl⟩
    | comment width rest =>
        have left : Text.trimLeft (List.replicate width ' ' ++ '#' :: rest) = '#' :: rest := by
          induction width with
          | zero => exact trim_left_of_head '#' rest (by decide)
          | succ width ih =>
              unfold Text.trimLeft at ih ⊢
              rw [List.replicate_succ, List.cons_append, List.dropWhile_cons_of_pos (by decide), ih]
        refine ⟨'#' :: rest, by simp [afterColon?, (by decide : Text.isBlank ' ' = true), left], ?_⟩
        rfl
  · have readable := legible ink
    refine ⟨text ++ trail, ?_, ?_⟩
    · rw [some_text, List.cons_append, afterColon?, if_pos (by decide), trimmed_left text trail readable.trimmed]
    · rw [strip_trail text trail readable behind, trimmed_trim text readable.trimmed]

theorem entry_head_plain (c : Char) (rest : List Char) (no_double : c ≠ '"') (no_single : c ≠ '\'') :
    entryHead? (c :: rest) =
      if opensPlainKey c then (takePlainKey? c rest).map fun (inside, value) => ⟨.plain (c :: inside), value⟩ else none := by
  unfold entryHead?
  split
  · cases ‹_ = []›
  · simp_all
  · simp_all
  · simp_all

theorem entry_head (key : String) (text trail : List Char) (written : isWrittenKey key.toList = true)
    (legible : text ≠ [] → IsLegible text) (behind : Trail trail) :
    ∃ said, entryHead? (entryText key text ++ trail) = some ⟨.plain key.toList, said⟩ ∧
      Text.trim (stripComment said) = text := by
  obtain ⟨said, colon, held⟩ := behind_colon text trail legible behind
  refine ⟨said, ?_, held⟩
  obtain ⟨first, rest, split, starts, letters⟩ := written_key_letters key.toList written
  have others : ∀ c ∈ rest, isKeyLetter c = true := fun c member => letters c (by simp [split, member])
  have taken := take_plain_key first rest _ said others colon
  simp only [entryText, split, List.cons_append, List.append_assoc]
  rw [entry_head_plain first _ (Text.name_start_ne first '"' starts (by decide))
    (Text.name_start_ne first '\'' starts (by decide)), if_pos (name_start_opens first starts), taken]
  rfl

theorem written_key_read (key : String) (written : isWrittenKey key.toList = true) :
    (KeyText.plain key.toList).read = .ok key := by
  obtain ⟨first, rest, split, -, letters⟩ := written_key_letters key.toList written
  have trimmed := trimmed_of_visible key.toList (by simp [split]) fun c member => key_letter_visible c (letters c member)
  rw [KeyText.read, trimmed.right, String.ofList_toList]

theorem int_text_head (i : Int) : ∃ c rest, Numeral.intText i = c :: rest ∧ (c = '-' ∨ c.isDigit = true) ∧
    ∀ d ∈ rest, d.isDigit = true := by
  obtain ⟨sign, signs, split⟩ := int_text_cases i
  rw [split]
  rcases signs with rfl | rfl
  · cases digits : Numeral.natText i.natAbs with
    | nil => exact absurd digits Nat.toDigits_ne_nil
    | cons c rest =>
        have every := nat_text_digits i.natAbs
        rw [digits, List.forall_mem_cons] at every
        exact ⟨c, rest, rfl, .inr every.1, every.2⟩
  · exact ⟨'-', Numeral.natText i.natAbs, rfl, .inl rfl, nat_text_digits i.natAbs⟩

theorem writable_cons (c : Char) (inside : List Char) (writable : (c :: inside).all isWritable = true) :
    c ≠ '"' ∧ c ≠ '\\' ∧ inside.all isWritable = true := by
  simp only [List.all_cons, Bool.and_eq_true, isWritable, decide_eq_true_eq] at writable
  obtain ⟨⟨⟨⟨no_quote, no_escape⟩, -⟩, -⟩, others⟩ := writable
  exact ⟨no_quote, no_escape, others⟩

theorem take_double_key (inside rest : List Char) (writable : inside.all isWritable = true) :
    takeDoubleKey? (inside ++ '"' :: rest) = some (inside, rest) := by
  induction inside with
  | nil => simp [takeDoubleKey?]
  | cons c inside ih =>
      obtain ⟨no_quote, no_escape, others⟩ := writable_cons c inside writable
      rw [List.cons_append, takeDoubleKey?, ih others]
      · rfl
      · exact no_quote
      · exact fun escape => absurd escape no_escape
      · exact fun _ _ escape => absurd escape no_escape

theorem take_single_key (inside : List Char) (single : inside.all isSingle = true) :
    takeSingleKey? (inside ++ ['\'']) = some (inside, []) := by
  induction inside with
  | nil => rfl
  | cons c inside ih =>
      simp only [List.all_cons, Bool.and_eq_true, isSingle, decide_eq_true_eq] at single
      rw [List.cons_append, takeSingleKey?, ih single.2]
      · rfl
      · exact fun _ quote => absurd quote single.1.1.1
      · exact single.1.1.1

theorem take_plain_key_inside (before : Char) (text : List Char) (colons : colonsInside text = true) :
    takePlainKey? before text = none := by
  induction text generalizing before with
  | nil => rfl
  | cons c text ih =>
      simp only [colonsInside, Bool.and_eq_true, Bool.or_eq_true, decide_eq_true_eq] at colons
      have no_value : (if c = ':' then afterColon? text else none) = none := by
        split
        · rename_i colon
          cases text with
          | nil => simp [colon] at colons
          | cons d text =>
              have visible : Text.isBlank d = false := by simpa [colon] using colons.1
              rw [afterColon?, if_neg (by simp [visible])]
        · rfl
      rw [takePlainKey?, no_value, ih c colons.2]
      simp

theorem spelled_no_entry (s : Scalar) (text : List Char) (spelled : Spelled s text) : entryHead? text = none := by
  cases spelled with
  | yes => decide
  | no => decide
  | int i _ =>
      obtain ⟨c, rest, split, first, digits⟩ := int_text_head i
      have no_colon : ':' ∉ rest := fun member => absurd (digits ':' member) (by decide)
      have no_quotes : c ≠ '"' ∧ c ≠ '\'' := by
        rcases first with rfl | digit
        · decide
        · constructor <;> rintro rfl <;> cases digit
      rw [split, entry_head_plain c rest no_quotes.1 no_quotes.2, take_plain_key_none c rest no_colon]
      split <;> rfl
  | str s writable =>
      unfold entryHead?
      simp only [take_double_key s.toList [] writable]
      rfl
  | single s single =>
      unfold entryHead?
      simp only [take_single_key s.toList single]
      rfl
  | plain s plain =>
      have colons := plain.colons
      obtain ⟨c, rest, split, starts⟩ := plain_start s.toList plain
      rw [split, colonsInside, Bool.and_eq_true] at colons
      rw [split, entry_head_plain c rest (Text.name_start_ne c '"' starts (by decide)) (Text.name_start_ne c '\'' starts (by decide)),
        take_plain_key_inside c rest colons.2]
      split <;> rfl

theorem block_mark_legible (folds : Bool) (chomp : Chomp) : IsLegible (blockMark folds :: chomp.mark) :=
  legible_of_plain _ (List.cons_ne_nil _ _) (by cases folds <;> cases chomp <;> decide)

theorem inline_no_entry (value : Value) (text : List Char) (inline : Inline value text) : entryHead? text = none := by
  cases inline with
  | null => rfl
  | scalar spelled => exact spelled_no_entry _ text spelled
  | noItems => decide
  | noEntries => decide
  | items _ => rw [entry_head_plain '[' _ (by decide) (by decide), if_neg (by decide)]

end PipelineLint.Document
