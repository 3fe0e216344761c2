import Mathlib.Data.List.Basic
import PipelineLint.Proofs.FlowFronts
import PipelineLint.Proofs.WrittenLines

set_option autoImplicit false

namespace PipelineLint.Document

theorem take_double (inside rest : List Char) (writable : inside.all isWritable = true) :
    takeDouble (inside ++ '"' :: rest) = .closed inside rest := by
  induction inside with
  | nil => simp [takeDouble]
  | cons c inside ih =>
      obtain ⟨no_quote, no_escape, others⟩ := writable_cons c inside writable
      rw [List.cons_append, takeDouble, ih others]
      · rfl
      · exact no_quote
      · exact fun _ _ _ _ _ escape => absurd escape no_escape
      · exact fun _ _ escape => absurd escape no_escape

theorem collection_read (c : Char) (inside : List Char) (last : Char) (value : Value) (opens : opensFlow c = true)
    (visible : Text.isBlank last = false)
    (front : ∀ whole, flowFront? whole (']' :: entryStops) (c :: (inside ++ [last])) = some (value, [])) :
    readInline (c :: (inside ++ [last])) = .ok value := by
  have solid : Text.isBlank c = false := by
    rcases Bool.or_eq_true_iff.mp opens with same | same <;> rw [of_decide_eq_true same] <;> rfl
  have trimmed := trimmed_trim _ (trimmed_append c inside [last] solid (trimmed_letter last visible))
  have taken := front (c :: (inside ++ [last]))
  unfold readInline
  rw [trimmed]
  simp only [opens, if_true]
  unfold readFlow
  unfold flowFront? at taken
  cases read : takeFlow (c :: (inside ++ [last])) (']' :: entryStops) (c :: (inside ++ [last])) with
  | error fault =>
      rw [read] at taken
      cases taken
  | ok result =>
      obtain ⟨found, after, shorter⟩ := result
      rw [read] at taken
      cases Option.some.inj taken
      rfl

theorem no_items_read : readInline ['[', ']'] = .ok (.list []) := by
  refine collection_read '[' [] ']' (.list []) (by decide) (by decide) fun whole => ?_
  rw [List.nil_append, flow_front_cons, if_neg (by decide), if_pos rfl, items_front]
  rfl

theorem no_entries_read : readInline ['\x7b', '\x7d'] = .ok (.map []) := by
  refine collection_read '\x7b' [] '\x7d' (.map []) (by decide) (by decide) fun whole => ?_
  rw [List.nil_append, flow_front_cons, if_neg (by decide), if_neg (by decide), if_pos rfl, entries_front]
  rfl

theorem quoted_text_read (quote : Char) (inside content : List Char) (quotes : isQuote quote = true)
    (closes : quotedFront? quote (inside ++ [quote]) = some (content, [])) :
    readInline (quote :: (inside ++ [quote])) = .ok (.str (String.ofList content)) := by
  have visible : Text.isBlank quote = false := by
    rcases Bool.or_eq_true_iff.mp quotes with same | same <;> rw [of_decide_eq_true same] <;> rfl
  have no_flow : opensFlow quote = false := by
    rcases Bool.or_eq_true_iff.mp quotes with same | same <;> rw [of_decide_eq_true same] <;> rfl
  have trimmed := trimmed_trim _ (trimmed_append quote inside [quote] visible (trimmed_letter quote visible))
  have front := quoted_front quote (inside ++ [quote])
  rw [closes] at front
  unfold readInline
  rw [trimmed]
  simp only [no_flow, quotes, if_true, Bool.false_eq_true, if_false]
  cases taken : takeQuoted quote (inside ++ [quote]) with
  | error fault =>
      rw [taken] at front
      cases front
  | ok read =>
      obtain ⟨s, after, shorter⟩ := read
      rw [taken] at front
      cases Option.some.inj front
      rfl

theorem take_single_inside (inside rest : List Char) (single : inside.all isSingle = true) (ends : rest.head? ≠ some '\'') :
    takeSingle (inside ++ '\'' :: rest) = .closed inside rest := by
  induction inside with
  | nil => exact take_single_closed rest ends
  | cons c inside ih =>
      simp only [List.all_cons, Bool.and_eq_true, isSingle, decide_eq_true_eq] at single
      rw [List.cons_append, take_single_other c _ single.1.1.1, ih single.2]
      rfl

theorem digit_value (c : Char) (digit : c.isDigit = true) : Text.digitValue? c = some (c.toNat - '0'.toNat) := by
  have small : c.toNat < 128 := Nat.lt_of_le_of_lt (Char.isDigit_iff_toNat.mp digit).2 (by decide)
  rw [Text.digitValue?, if_pos small, if_pos digit]
  rfl

theorem digits_value (n : Nat) : Text.digitsValue (Numeral.natText n) = n := by
  have same : Text.digitsValue (Numeral.natText n) = Nat.ofDigitChars 10 (Numeral.natText n) 0 := by
    rw [Nat.ofDigitChars_eq_foldl]
    refine List.foldl_ext _ _ _ fun value c member => ?_
    rw [digit_value c (nat_text_digits n c member), Nat.mul_comm]
    rfl
  rw [same, Numeral.natText, Nat.ofDigitChars_ten_toDigits]

def opensNumber (c : Char) : Bool :=
  c = '-' || c.isDigit

theorem number_no_word (words : List String) (c : Char) (rest : List Char) (opens : opensNumber c = true)
    (letters : ∀ word ∈ words, word.toList.head?.any opensNumber = false) :
    words.contains (String.ofList (c :: rest)) = false := by
  rw [List.contains_eq_mem, decide_eq_false_iff_not]
  intro member
  have other := letters _ member
  rw [String.toList_ofList, List.head?_cons, Option.any_some, opens] at other
  cases other

theorem lower_number (c : Char) (rest : List Char) (opens : opensNumber c = true) :
    ∃ more, Text.lower (c :: rest) = c :: more := by
  refine ⟨Text.lowerAfter (if Text.isCaseIgnorable c then false else Text.isCased c) rest, ?_⟩
  have no_sigma : c ≠ 'Σ' := by
    rintro rfl
    cases opens
  have image : Text.lowerChar c = [c] := by
    rcases Bool.or_eq_true_iff.mp opens with dash | digit
    · rw [of_decide_eq_true dash]
      decide
    · have code := Char.isDigit_iff_toNat.mp digit
      have small : c.toNat < 128 := Nat.lt_of_le_of_lt code.2 (by decide)
      have lower : c.toLower = c := by
        refine dif_neg ?_
        rintro ⟨upper, -⟩
        have high : 65 ≤ c.toNat := UInt32.le_iff_toNat_le.mp upper
        have low : c.toNat ≤ 57 := code.2
        omega
      rw [Text.lowerChar, if_pos small, lower]
  rw [Text.lower, Text.lowerAfter, if_neg no_sigma, image]
  rfl

theorem digits_taken (n : Nat) : Numeral.takeDigits (Numeral.natText n) = (Numeral.natText n, []) := by
  have decimal : ∀ c ∈ Numeral.natText n, Text.isDecimal c = true := by
    intro c member
    rw [Text.isDecimal, digit_value c (nat_text_digits n c member)]
    rfl
  unfold Numeral.takeDigits
  rw [List.takeWhile_eq_self_iff.mpr decimal, List.dropWhile_eq_nil_iff.mpr decimal]

theorem sign_taken (i : Int) : Numeral.takeSign (Numeral.intText i) = (decide (i < 0), Numeral.natText i.natAbs) := by
  unfold Numeral.intText
  split
  · rename_i negative
    rw [decide_eq_true negative]
    rfl
  · rename_i positive
    rw [decide_eq_false positive]
    have digits := nat_text_digits i.natAbs
    unfold Numeral.takeSign
    split
    · rename_i rest found
      rw [found] at digits
      cases digits '-' (by simp)
    · rename_i rest found
      rw [found] at digits
      cases digits '+' (by simp)
    · rfl

theorem integer_read (i : Int) :
    Numeral.integer? (Numeral.intText i) = some (decide (i < 0), Numeral.natText i.natAbs) := by
  have some_digit : Numeral.natText i.natAbs ≠ [] := Nat.toDigits_ne_nil
  simp [Numeral.integer?, sign_taken, digits_taken, some_digit, Numeral.atEnd]

theorem bounded_read (i : Int) (short : (Numeral.natText i.natAbs).length ≤ Numeral.maxDigits) :
    Numeral.boundedValue? (decide (i < 0)) (Numeral.natText i.natAbs) = some i := by
  rw [Numeral.boundedValue?, if_neg (by omega), digits_value]
  simp only [decide_eq_true_eq, Option.some.injEq]
  split <;> omega

theorem int_coerced (i : Int) (short : (Numeral.natText i.natAbs).length ≤ Numeral.maxDigits) :
    coercePlain (Numeral.intText i) = .ok (.int i) := by
  obtain ⟨c, rest, split, first, -⟩ := int_text_head i
  have opens : opensNumber c = true := by rcases first with rfl | digit <;> simp [opensNumber, *]
  obtain ⟨more, lower⟩ := lower_number c rest opens
  have plain : nullWords.contains (String.ofList (Numeral.intText i)) = false := by
    rw [split]
    exact number_no_word nullWords c rest opens (by decide)
  have no_yes : trueWords.contains (String.ofList (Text.lower (Numeral.intText i))) = false := by
    rw [split, lower]
    exact number_no_word trueWords c more opens (by decide)
  have no_no : falseWords.contains (String.ofList (Text.lower (Numeral.intText i))) = false := by
    rw [split, lower]
    exact number_no_word falseWords c more opens (by decide)
  simp only [coercePlain, plain, no_yes, no_no, integer_read, bounded_read i short, Bool.false_eq_true, if_false]

theorem letter_no_digit (c : Char) (starts : Text.isNameStart c = true) : Text.isDecimal c = false ∧ c ≠ '-' ∧ c ≠ '+' ∧ c ≠ '.' := by
  have other (d : Char) (no_start : Text.isNameStart d = false) : c ≠ d := Text.name_start_ne c d starts no_start
  refine ⟨?_, other '-' (by decide), other '+' (by decide), other '.' (by decide)⟩
  rw [Text.isDecimal, Text.digitValue?, if_pos (Text.name_start_small c starts), if_neg (by simp [Text.name_start_not_digit c starts])]
  rfl

theorem plain_no_number (text : List Char) (plain : IsPlainText text) : Numeral.integer? text = none ∧ Numeral.decimal? text = none := by
  obtain ⟨c, rest, rfl, starts⟩ := plain_start text plain
  obtain ⟨no_digit, no_minus, no_plus, no_point⟩ := letter_no_digit c starts
  have unsigned : Numeral.takeSign (c :: rest) = (false, c :: rest) := by simp [Numeral.takeSign, no_minus, no_plus]
  have no_digits : Numeral.takeDigits (c :: rest) = ([], c :: rest) := by simp [Numeral.takeDigits, no_digit]
  have no_fraction : Numeral.takeDecimal? (c :: rest) = none := by
    simp [Numeral.takeDecimal?, unsigned, no_digits, no_point]
  exact ⟨by simp [Numeral.integer?, unsigned, no_digits], by rw [Numeral.decimal?, no_fraction]⟩

theorem plain_coerced (s : String) (plain : IsPlainText s.toList) : coercePlain s.toList = .ok (.str s) := by
  obtain ⟨no_integer, no_decimal⟩ := plain_no_number s.toList plain
  have free := plain.free
  simp only [isReserved, Bool.or_eq_false_iff, String.ofList_toList] at free
  simp only [coercePlain, free.1.1, free.1.2, free.2, no_integer, no_decimal, Bool.false_eq_true, if_false, String.ofList_toList]

structure IsQuotation (quote : Char) (text : List Char) : Prop where
  quotes : isQuote quote = true
  apart : quote ∉ text
  closes : ∀ more, more.head? ≠ some quote → quotedFront? quote (text ++ quote :: more) = some (text, more)

theorem double_quotation (text : List Char) (writable : text.all isWritable = true) : IsQuotation '"' text := by
  refine ⟨rfl, fun member => absurd (List.all_eq_true.mp writable '"' member) (by decide), fun more _ => ?_⟩
  rw [quotedFront?, if_neg (by decide), take_double text more writable]
  rfl

theorem single_quotation (text : List Char) (single : text.all isSingle = true) : IsQuotation '\'' text := by
  refine ⟨rfl, fun member => absurd (List.all_eq_true.mp single '\'' member) (by decide), fun more ends => ?_⟩
  rw [quotedFront?, if_pos rfl, take_single_inside text more single ends]
  rfl

def isWordLetter (c : Char) : Bool :=
  c = '-' || isKeyLetter c

theorem word_letter_not (c d : Char) (letter : isWordLetter c = true) (other : isWordLetter d = false) : c ≠ d := by
  rintro rfl
  rw [letter] at other
  cases other

theorem word_letter_visible (c : Char) (letter : isWordLetter c = true) : Text.isBlank c = false := by
  rcases Bool.or_eq_true_iff.mp letter with dash | key
  · rw [of_decide_eq_true dash]
    rfl
  · exact key_letter_visible c key

theorem word_letter_unmarked (c : Char) (letter : isWordLetter c = true) : isUnmarked c = true := by
  rcases Bool.or_eq_true_iff.mp letter with dash | key
  · rw [of_decide_eq_true dash]
    rfl
  · exact key_letter_unmarked c key

theorem word_letter_bare (c : Char) (letter : isWordLetter c = true) : opensFlow c = false ∧ isQuote c = false := by
  have other (d : Char) (no_letter : isWordLetter d = false) : c ≠ d := word_letter_not c d letter no_letter
  simp [opensFlow, isQuote, other '[' (by decide), other '\x7b' (by decide), other '"' (by decide), other '\'' (by decide)]

theorem int_word (i : Int) : Numeral.intText i ≠ [] ∧ ∀ c ∈ Numeral.intText i, isWordLetter c = true := by
  obtain ⟨c, rest, split, first, digits⟩ := int_text_head i
  rw [split]
  refine ⟨List.cons_ne_nil _ _, List.forall_mem_cons.mpr ⟨?_, fun d member => ?_⟩⟩
  · rcases first with rfl | digit <;> simp [isWordLetter, isKeyLetter, *]
  · simp [isWordLetter, isKeyLetter, digits d member]

-- A scalar stands between quotes, or is a text that is read without them.
theorem spelled_cases (s : Scalar) (text : List Char) (spelled : Spelled s text) :
    (∃ quote, ∃ t : String, s = .str t ∧ text = quote :: (t.toList ++ [quote]) ∧ IsQuotation quote t.toList) ∨
      ∃ c rest, text = c :: rest ∧ isWordLetter c = true ∧ (∀ d ∈ text, isUnmarked d = true) ∧
        coercePlain text = .ok (.scalar s) := by
  cases spelled with
  | yes => exact .inr ⟨'t', _, rfl, by decide, by decide, rfl⟩
  | no => exact .inr ⟨'f', _, rfl, by decide, by decide, rfl⟩
  | int i short =>
      obtain ⟨c, rest, split, -⟩ := int_text_head i
      have letters := (int_word i).2
      exact .inr ⟨c, rest, split, letters c (by simp [split]), fun d member => word_letter_unmarked d (letters d member), int_coerced i short⟩
  | str s writable => exact .inl ⟨'"', s, rfl, rfl, double_quotation s.toList writable⟩
  | single s single => exact .inl ⟨'\'', s, rfl, rfl, single_quotation s.toList single⟩
  | plain s plain =>
      obtain ⟨c, rest, split, starts⟩ := plain_start s.toList plain
      exact .inr ⟨c, rest, split, by simp [isWordLetter, isKeyLetter, starts],
        fun d member => (plain_character d (List.all_eq_true.mp plain.plain d member)).2, plain_coerced s plain⟩

theorem bare_front (whole stops word more : List Char) (value : Value) (trimmed : IsTrimmed word)
    (bare : word.head?.any (fun c => opensFlow c || isQuote c) = false) (inside : ∀ c ∈ word, c ∉ stops)
    (coerced : coercePlain word = .ok value) (stopped : ∀ c ∈ more.head?, c ∈ stops) :
    flowFront? whole stops (word ++ more) = some (value, more) := by
  have inner : ∀ c ∈ word, (!stops.contains c) = true := fun c member => by simpa using inside c member
  have outside : more.takeWhile (fun c => !stops.contains c) = [] ∧ more.dropWhile (fun c => !stops.contains c) = more := by
    cases more with
    | nil => exact ⟨rfl, rfl⟩
    | cons c rest =>
        have stop : c ∈ stops := stopped c rfl
        simp [stop]
  have plain : plainFront? stops (word ++ more) = some (value, more) := by
    unfold plainFront?
    rw [List.takeWhile_append_of_pos inner, List.dropWhile_append_of_pos inner, outside.1, outside.2, List.append_nil,
      trimmed_trim word trimmed, coerced]
  obtain ⟨c, rest, rfl, visible⟩ := trimmed_head word trimmed
  have no_space : isFlowSpace c = false := by
    cases space : isFlowSpace c with
    | false => rfl
    | true =>
        simp only [isFlowSpace, Bool.or_eq_true, decide_eq_true_eq] at space
        rcases space with (rfl | rfl) | rfl <;> cases visible
  simp only [List.head?_cons, Option.any_some, Bool.or_eq_false_iff, opensFlow, decide_eq_false_iff_not] at bare
  rw [List.cons_append, flow_front_cons, no_space, bare.2, if_neg Bool.false_ne_true, if_neg bare.1.1, if_neg bare.1.2,
    if_neg Bool.false_ne_true]
  exact plain

theorem quotation_front (whole stops text rest more : List Char) (quote : Char) (quotes : isQuote quote = true)
    (closes : quotedFront? quote rest = some (text, more)) :
    flowFront? whole stops (quote :: rest) = some (.str (String.ofList text), more) := by
  have apart : isFlowSpace quote = false ∧ quote ≠ '[' ∧ quote ≠ '\x7b' := by
    rcases Bool.or_eq_true_iff.mp quotes with same | same <;> rw [of_decide_eq_true same] <;> decide
  rw [flow_front_cons, apart.1, if_neg Bool.false_ne_true, if_neg apart.2.1, if_neg apart.2.2, if_pos quotes, closes]
  rfl

theorem mark_free (c : Char) (free : isFlowMark c = false) : c ∉ itemStops ∧ opensFlow c = false ∧ closesFlow c = false := by
  have outside : c ∉ [',', '[', ']', '\x7b', '\x7d'] := by simpa [isFlowMark] using free
  simp only [List.mem_cons, not_or] at outside
  simp [itemStops, opensFlow, closesFlow, outside]

theorem flow_item_front (whole text more : List Char) (s : Scalar) (item : FlowItem s text)
    (stopped : ∀ c ∈ more.head?, c ∈ itemStops) : flowFront? whole itemStops (text ++ more) = some (.scalar s, more) := by
  cases item with
  | null => exact bare_front whole itemStops _ more .null (flow_item_legible _ _ .null).trimmed (by decide) (by decide) rfl stopped
  | spelled spelled apart =>
      have trimmed := (spelled_legible s text spelled).trimmed
      rcases spelled_cases s text spelled with ⟨quote, t, rfl, rfl, quotes, -, closes⟩ | ⟨c, rest, rfl, letter, -, coerced⟩
      · have last : more.head? ≠ some quote := by
          intro same
          have stop : quote ∈ itemStops := stopped quote same
          rcases Bool.or_eq_true_iff.mp quotes with double | single
          · exact absurd (of_decide_eq_true double ▸ stop) (by decide)
          · exact absurd (of_decide_eq_true single ▸ stop) (by decide)
        rw [List.cons_append, List.append_assoc, List.singleton_append,
          quotation_front whole itemStops t.toList _ more quote quotes (closes more last), String.ofList_toList]
      · obtain ⟨no_flow, no_quote⟩ := word_letter_bare c letter
        have unmarked := apart.resolve_left (by simp [no_quote])
        refine bare_front whole itemStops _ more _ trimmed (by simp [no_flow, no_quote]) (fun d member => ?_) coerced stopped
        exact (mark_free d (by simpa using List.any_eq_false.mp unmarked d member)).1

theorem space_items (whole text : List Char) : itemsFront? whole (' ' :: text) = itemsFront? whole text := by
  rw [items_front, items_front whole text, flow_front_cons]
  rfl

theorem item_front (whole text after : List Char) (item : Value)
    (starts : text.head?.any (fun c => !isFlowSpace c && c ≠ ']') = true)
    (read : flowFront? whole itemStops (text ++ after) = some (item, after)) :
    itemsFront? whole (text ++ after) =
      match skipFlowSpaces after with
      | ',' :: more => (itemsFront? whole more).map fun others => (item :: others.1, others.2)
      | ']' :: final => some ([item], final)
      | _ => none := by
  cases text with
  | nil => cases starts
  | cons c rest =>
      simp only [List.head?_cons, Option.any_some, Bool.and_eq_true, Bool.not_eq_true', decide_eq_true_eq] at starts
      have start : skipFlowSpaces (c :: rest ++ after) = c :: (rest ++ after) := by
        rw [List.cons_append, skipFlowSpaces, List.dropWhile_cons_of_neg (by simp [starts.1])]
      rw [items_front, read, start]
      split
      · rename_i tail same
        exact absurd (List.cons.inj same).1 starts.2
      · rfl

theorem flow_item_start (s : Scalar) (text : List Char) (item : FlowItem s text) :
    text.head?.any (fun c => !isFlowSpace c && c ≠ ']') = true := by
  cases item with
  | null => decide
  | spelled spelled _ =>
      rcases spelled_cases s text spelled with ⟨quote, t, -, rfl, quotes, -⟩ | ⟨c, rest, rfl, letter, -⟩
      · rcases Bool.or_eq_true_iff.mp quotes with same | same <;> rw [of_decide_eq_true same] <;> rfl
      · have other (d : Char) (no_letter : isWordLetter d = false) : c ≠ d := word_letter_not c d letter no_letter
        simp [isFlowSpace, other ' ' (by decide), other '\t' (by decide), other '\n' (by decide), other ']' (by decide)]

theorem flow_items_front (whole text : List Char) (items : List Value) (listed : FlowItems items text) :
    itemsFront? whole (text ++ [']']) = some (items, []) := by
  induction listed with
  | last item =>
      rw [item_front whole _ [']'] _ (flow_item_start _ _ item) (flow_item_front whole _ _ _ item (by decide))]
      rfl
  | @more s items text others item _ ih =>
      have first := flow_item_front whole text (',' :: ' ' :: (others ++ [']'])) s item (by simp [itemStops])
      rw [List.append_assoc, List.cons_append, List.cons_append, item_front whole _ _ _ (flow_item_start s text item) first]
      show (itemsFront? whole (' ' :: _)).map _ = _
      rw [space_items, ih]
      rfl

theorem flow_items_read (items : List Value) (text : List Char) (listed : FlowItems items text) :
    readInline ('[' :: (text ++ [']'])) = .ok (.list items) := by
  refine collection_read '[' text ']' (.list items) (by decide) (by decide) fun whole => ?_
  rw [flow_front_cons, if_neg (by decide), if_pos rfl, flow_items_front whole text items listed]
  rfl

theorem unmarked_level (text rest : List Char) (depth : Int)
    (unmarked : ∀ c ∈ text, isQuote c = false ∧ opensFlow c = false ∧ closesFlow c = false) :
    openAfter depth none (text ++ rest) = openAfter depth none rest := by
  induction text with
  | nil => rfl
  | cons c text ih =>
      obtain ⟨⟨no_quote, no_opening, no_closing⟩, others⟩ := List.forall_mem_cons.mp unmarked
      rw [List.cons_append, open_after_plain depth c _ no_quote, flowStep, no_opening, no_closing]
      simpa using ih others

theorem flow_item_level (s : Scalar) (text rest : List Char) (item : FlowItem s text) (depth : Int) :
    openAfter depth none (text ++ rest) = openAfter depth none rest := by
  cases item with
  | null => exact unmarked_level _ rest depth (by decide)
  | spelled spelled apart =>
      rcases spelled_cases s text spelled with ⟨quote, t, -, rfl, quotes, closed, -⟩ | ⟨c, tail, rfl, letter, unmarked, -⟩
      · rw [List.cons_append, List.append_assoc, List.singleton_append, openAfter, if_pos quotes,
          open_after_inside depth quote t.toList rest closed]
      · have free := apart.resolve_left (by simp [(word_letter_bare c letter).2])
        refine unmarked_level _ rest depth fun d member => ?_
        have sign := unmarked d member
        simp only [isUnmarked, Bool.and_eq_true, decide_eq_true_eq] at sign
        exact ⟨by simp [isQuote, sign], (mark_free d (by simpa using List.any_eq_false.mp free d member)).2⟩

theorem flow_items_level (items : List Value) (text rest : List Char) (listed : FlowItems items text) (depth : Int) :
    openAfter depth none (text ++ rest) = openAfter depth none rest := by
  induction listed with
  | last item => exact flow_item_level _ _ rest item depth
  | @more s items text others item _ ih =>
      have gap := unmarked_level [',', ' '] (others ++ rest) depth (by decide)
      rw [List.append_assoc, flow_item_level s text _ item depth]
      exact gap.trans ih

theorem flow_items_balanced (items : List Value) (text : List Char) (listed : FlowItems items text) :
    isUnbalanced ('[' :: (text ++ [']'])) = false := by
  have closed : openAfter 0 none ('[' :: (text ++ [']'])) = (0, none) := by
    rw [open_after_plain 0 '[' _ rfl, flow_items_level items text [']'] listed]
    rfl
  simp [isUnbalanced, closed]

theorem gather_balanced (piece : Line → List Char) (text : List Char) (lines : List Line)
    (balanced : isUnbalanced text = false) : gather piece text lines = (text, lines) := by
  cases lines with
  | nil => rfl
  | cons line lines => rw [gather, if_neg (by simp [balanced])]

def Reads {lines : List Line} (result : Except Fault (Value × After lines)) (value : Value) (rows : List Row) : Prop :=
  ∃ place, result = .ok (value, place) ∧ Shown rows place.1.lines

theorem read_gathered (piece : Line → List Char) (finish : List Char → List Char) (text : List Char) (cursor : Cursor)
    (value : Value) (rows : List Row) (shown : Shown rows cursor.lines) (balanced : isUnbalanced text = false)
    (read : readInline (finish text) = .ok value) : Reads (readGathered piece finish text cursor) value rows := by
  have taken := gather_balanced piece text cursor.lines balanced
  refine ⟨After.moved cursor (gather_suffix piece text cursor.lines), ?_, ?_⟩
  · simp only [readGathered, taken, read]
  · simpa only [After.moved, Cursor.moveTo, taken] using shown

theorem read_plain (text : List Char) (parent : Nat) (cursor : Cursor) (value : Value) (rows : List Row)
    (no_header : blockHeader? text = none) (no_flow : text.head?.any opensFlow = false)
    (no_quote : text.head?.any isQuote = false) (coerced : coercePlain text = .ok value)
    (shown : Shown rows cursor.lines) (shallow : ∀ row ∈ rows.head?, row.column ≤ parent) :
    Reads (readScalar text parent cursor) value rows := by
  obtain ⟨alone, left⟩ := continuation_shown parent rows cursor.lines shown shallow
  refine ⟨After.moved cursor (takeContinuation_suffix parent cursor.lines), ?_, left⟩
  have whole : [' '].intercalate [text] = text := by simp [List.intercalate]
  simp only [readScalar, no_header, no_flow, no_quote, alone, whole, coerced, Bool.false_eq_true, if_false]

theorem read_quoted (quote : Char) (s : String) (parent : Nat) (cursor : Cursor) (rows : List Row)
    (quotation : IsQuotation quote s.toList) (legible : IsLegible (quote :: (s.toList ++ [quote]))) (shown : Shown rows cursor.lines) :
    Reads (readScalar (quote :: (s.toList ++ [quote])) parent cursor) (.str s) rows := by
  obtain ⟨quotes, apart, closes⟩ := quotation
  have balanced : isUnbalanced (quote :: (s.toList ++ [quote])) = false := by
    simp [isUnbalanced, openAfter, quotes, open_after_inside 0 quote s.toList [] apart]
  have stripped : stripComment (quote :: (s.toList ++ [quote])) = quote :: (s.toList ++ [quote]) := by
    simpa using strip_trail _ [] legible .none
  have header : blockHeader? (quote :: (s.toList ++ [quote])) = none ∧ opensFlow quote = false := by
    rcases Bool.or_eq_true_iff.mp quotes with same | same <;> rw [of_decide_eq_true same] <;> exact ⟨rfl, rfl⟩
  have read := quoted_text_read quote s.toList s.toList quotes (closes [] (by simp))
  rw [String.ofList_toList] at read
  have scalar : readScalar (quote :: (s.toList ++ [quote])) parent cursor =
      readGathered Line.content stripComment (quote :: (s.toList ++ [quote])) cursor := by
    simp only [readScalar, header.1, List.head?_cons, Option.any_some, header.2, quotes, if_true, Bool.false_eq_true, if_false]
  rw [scalar]
  exact read_gathered Line.content stripComment _ cursor (.str s) rows shown balanced (by rw [stripped, read])

theorem read_spelled (s : Scalar) (text : List Char) (parent : Nat) (cursor : Cursor) (rows : List Row) (spelled : Spelled s text)
    (shown : Shown rows cursor.lines) (shallow : ∀ row ∈ rows.head?, row.column ≤ parent) :
    Reads (readScalar text parent cursor) (.scalar s) rows := by
  have legible := spelled_legible s text spelled
  rcases spelled_cases s text spelled with ⟨quote, t, rfl, rfl, quotation⟩ | ⟨c, rest, rfl, letter, -, coerced⟩
  · exact read_quoted quote t parent cursor rows quotation legible shown
  · have other (d : Char) (no_letter : isWordLetter d = false) : c ≠ d := word_letter_not c d letter no_letter
    obtain ⟨no_flow, no_quote⟩ := word_letter_bare c letter
    exact read_plain _ parent cursor _ rows (by simp [blockHeader?, other '|' (by decide), other '>' (by decide)])
      (by simp [no_flow]) (by simp [no_quote]) coerced shown shallow

theorem read_scalar_inline (value : Value) (text : List Char) (parent : Nat) (cursor : Cursor) (rows : List Row)
    (inline : Inline value text) (ink : text ≠ []) (shown : Shown rows cursor.lines)
    (shallow : ∀ row ∈ rows.head?, row.column ≤ parent) : Reads (readScalar text parent cursor) value rows := by
  cases inline with
  | null => contradiction
  | scalar spelled => exact read_spelled _ text parent cursor rows spelled shown shallow
  | noItems =>
      exact read_gathered (fun line => stripComment line.content) id _ cursor (.list []) rows shown (by decide) no_items_read
  | noEntries =>
      exact read_gathered (fun line => stripComment line.content) id _ cursor (.map []) rows shown (by decide) no_entries_read
  | @items items text listed =>
      exact read_gathered (fun line => stripComment line.content) id _ cursor (.list items) rows shown
        (flow_items_balanced items text listed) (flow_items_read items text listed)

end PipelineLint.Document
