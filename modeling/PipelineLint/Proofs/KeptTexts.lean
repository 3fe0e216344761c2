import PipelineLint.Proofs.KeptData
import PipelineLint.Proofs.Shapes
import PipelineLint.Proofs.WrittenLines

set_option autoImplicit false

namespace PipelineLint.Document

open Repair Expression

-- How the text of a row may change: another key, or, where calls may, another name in front of a bracket, maybe behind a dash.
inductive Reworded (calls : Prop) : List Char → List Char → Prop where
  | key (name other after value : List Char) : isKeyName name = true → KeyTail after value → isWrittenKey other = true →
      Reworded calls (name ++ after) (other ++ after)
  | item (text other : List Char) : Reworded calls text other → Reworded calls ('-' :: ' ' :: text) ('-' :: ' ' :: other)
  | call (before name other after : List Char) : calls → name ≠ [] → (∀ c ∈ name, Text.isWord c = true) → Opens after →
      isWrittenKey other = true → Reworded calls (before ++ (name ++ after)) (before ++ (other ++ after))

variable {calls : Prop}

theorem last_ink (front other blanks spaces : List Char) (c d : Char) (first : Text.isBlank c = false)
    (second : Text.isBlank d = false) (blank : ∀ b ∈ blanks, Text.isBlank b = true) (space : ∀ b ∈ spaces, Text.isBlank b = true)
    (same : front ++ c :: blanks = other ++ d :: spaces) : c = d := by
  rcases append_split front (c :: blanks) other spaces d same with ⟨more, -, behind⟩ | ⟨more, -, behind⟩
  · cases more with
    | nil => exact (List.cons.inj behind).1
    | cons b more =>
        have member : d ∈ blanks := by
          rw [(List.cons.inj behind).2]
          simp
        rw [blank d member] at second
        cases second
  · have member : c ∈ spaces := by
      rw [behind]
      simp
    rw [space c member] at first
    cases first

theorem opens_bracket (tail : List Char) (opens : Opens tail) : '(' ∈ tail := by
  obtain ⟨gap, rest, rfl, -⟩ := opens
  simp

theorem call_split (front blanks rest before name after : List Char) (c : Char) (solid : Text.isBlank c = false)
    (sign : Text.isWord c = false) (blank : ∀ b ∈ blanks, Text.isBlank b = true) (ink : name ≠ [])
    (letters : ∀ d ∈ name, Text.isWord d = true) (opens : Opens after)
    (split : (front ++ c :: blanks) ++ rest = before ++ (name ++ after)) :
    (∃ inside, before = (front ++ c :: blanks) ++ inside ∧ rest = inside ++ (name ++ after)) ∨
      ∃ more, Opens more ∧ front ++ c :: blanks = before ++ (name ++ more) := by
  obtain ⟨lead, d, rfl⟩ := List.eq_nil_or_concat name |>.resolve_left ink
  rw [List.concat_eq_append] at split letters ⊢
  have last_word (others : List Char) (others_blank : ∀ b ∈ others, Text.isBlank b = true) (e : Char)
      (word : Text.isWord e = true) (start : List Char) : front ++ c :: blanks ≠ start ++ e :: others := by
    intro same
    have signs := last_ink front start blanks others c e solid (Text.word_not_blank e word) blank others_blank same
    rw [← signs, sign] at word
    cases word
  have word := letters d (by simp)
  rcases append_split (front ++ c :: blanks) rest (before ++ lead) after d (by simpa using split) with
    ⟨others, here, behind⟩ | ⟨others, here, behind⟩
  · left
    rcases List.append_eq_append_iff.mp here with ⟨more, longer, rfl⟩ | ⟨more, rfl, same⟩
    · rcases List.eq_nil_or_concat more with rfl | ⟨start, e, rfl⟩
      · exact ⟨[], by simpa using longer.symm, by rw [behind]; simp⟩
      · rw [List.concat_eq_append] at longer letters
        exact absurd (by simpa using longer) (last_word [] (by simp) e (letters e (by simp)) (before ++ start))
    · exact ⟨more, rfl, by rw [behind, same]; simp⟩
  · right
    obtain ⟨gap, inner, opened, gap_blank⟩ := opens
    rcases append_split others rest gap inner '(' (behind ▸ opened) with ⟨more, rfl, -⟩ | ⟨more, rfl, -⟩
    · exact absurd here (last_word others (fun b member => gap_blank b (List.mem_append_left _ member)) d word _)
    · exact ⟨gap ++ '(' :: more, ⟨gap, more, rfl, gap_blank⟩, by simpa using here⟩

theorem call_behind (front blanks rest before name after : List Char) (c : Char) (solid : Text.isBlank c = false)
    (sign : Text.isWord c = false) (blank : ∀ b ∈ blanks, Text.isBlank b = true) (free : '(' ∉ front ++ c :: blanks)
    (ink : name ≠ []) (letters : ∀ d ∈ name, Text.isWord d = true) (opens : Opens after)
    (split : (front ++ c :: blanks) ++ rest = before ++ (name ++ after)) :
    ∃ inside, before = (front ++ c :: blanks) ++ inside ∧ rest = inside ++ (name ++ after) := by
  refine (call_split front blanks rest before name after c solid sign blank ink letters opens split).resolve_right ?_
  rintro ⟨more, bracket, here⟩
  exact free (here ▸ by simp [opens_bracket more bracket])

theorem call_front (text tail before name after : List Char) (free : '(' ∉ tail) (opens : Opens after)
    (split : text ++ tail = before ++ (name ++ after)) :
    ∃ behind, Opens behind ∧ text = before ++ (name ++ behind) ∧ after = behind ++ tail := by
  obtain ⟨gap, inner, rfl, blank⟩ := opens
  have whole : text ++ tail = (before ++ (name ++ gap)) ++ '(' :: inner := by simpa using split
  rcases append_split text tail _ inner '(' whole with ⟨more, -, behind⟩ | ⟨more, rfl, rfl⟩
  · exact absurd (behind ▸ by simp) free
  · exact ⟨gap ++ '(' :: more, ⟨gap, more, rfl, blank⟩, by simp, by simp⟩

theorem reworded_ink (text other : List Char) (reworded : Reworded calls text other) : text ≠ [] ∧ other ≠ [] := by
  cases reworded with
  | key name other after value named _ written =>
      obtain ⟨c, rest, rfl, -⟩ := key_name_cases name named
      obtain ⟨d, letters, rfl, -⟩ := written_key_letters other written
      exact ⟨by simp, by simp⟩
  | item text other _ => exact ⟨by simp, by simp⟩
  | call before name other after _ ink _ opens _ =>
      have bracket := List.ne_nil_of_mem (opens_bracket after opens)
      exact ⟨by simp [bracket], by simp [bracket]⟩

theorem item_text_ink (text : List Char) (ink : text ≠ []) : itemText text = '-' :: ' ' :: text := by
  rcases spaced_cases text with ⟨nothing, -⟩ | ⟨-, same⟩
  · exact absurd nothing ink
  · rw [itemText, same]

theorem item_reworded (text new : List Char) (reworded : Reworded calls (itemText text) new) :
    ∃ other, Reworded calls text other ∧ new = itemText other := by
  generalize whole : itemText text = old at reworded
  cases reworded with
  | key name other after value named _ _ =>
      obtain ⟨c, rest, rfl, starts, -⟩ := key_name_cases name named
      rw [itemText, List.cons_append] at whole
      rw [← (List.cons.inj whole).1] at starts
      cases starts
  | item inside other reworded =>
      obtain ⟨-, ink⟩ := reworded_ink inside other reworded
      rcases spaced_cases text with ⟨-, nothing⟩ | ⟨-, same⟩
      · rw [itemText, nothing] at whole
        cases whole
      · rw [itemText, same] at whole
        obtain rfl := (List.cons.inj (List.cons.inj whole).2).2
        exact ⟨other, reworded, (item_text_ink other ink).symm⟩
  | call before name other after allowed ink letters opens target =>
      have bracket := opens_bracket after opens
      rcases spaced_cases text with ⟨-, nothing⟩ | ⟨some_text, same⟩
      · have member : '(' ∈ itemText text := whole ▸ by simp [bracket]
        rw [itemText, nothing] at member
        cases member
        contradiction
      · rw [item_text_ink text some_text] at whole
        obtain ⟨inside, rfl, rfl⟩ := call_behind [] [' '] text before name after '-' (by decide) (by decide) (by decide)
          (by decide) ink letters opens whole
        refine ⟨_, .call inside name other after allowed ink letters opens target, ?_⟩
        rw [item_text_ink _ (by simp [List.ne_nil_of_mem bracket])]
        simp

theorem written_key_name (key : List Char) (written : isWrittenKey key = true) : isKeyName key = true := by
  obtain ⟨c, rest, rfl, starts, letters⟩ := written_key_letters key written
  simp only [isKeyName, starts, Bool.true_and, List.all_eq_true]
  exact fun d member => word_is_key d (key_letter_word d (letters d (List.mem_cons_of_mem _ member)))

theorem key_tail_gap (gap rest : List Char) (gaps : ∀ c ∈ gap, isGap c = true) (wide : rest.head?.all isGap = true) :
    KeyTail (gap ++ ':' :: rest) (rest.dropWhile isGap) := by
  refine ⟨fun c head => ?_, ?_⟩
  · cases gap with
    | nil =>
        obtain rfl := Option.some.inj head
        decide
    | cons d gap =>
        obtain rfl := Option.some.inj head
        rcases Bool.or_eq_true_iff.mp (gaps d List.mem_cons_self) with same | same <;> rw [of_decide_eq_true same] <;> decide
  · rw [List.dropWhile_append_of_pos gaps, List.dropWhile_cons_of_neg (by decide), colonValue?, if_pos wide]

theorem spaced_key_tail (text : List Char) : KeyTail (':' :: spaced text) ((spaced text).dropWhile isGap) := by
  refine key_tail_gap [] (spaced text) (by simp) ?_
  rcases spaced_cases text with ⟨-, same⟩ | ⟨-, same⟩ <;> rw [same] <;> rfl

theorem entry_reworded (key : String) (text new : List Char) (written : isWrittenKey key.toList = true)
    (reworded : Reworded calls (entryText key text) new) :
    (∃ other : String, isWrittenKey other.toList = true ∧ new = entryText other text) ∨
      ∃ other, Reworded calls text other ∧ new = entryText key other := by
  obtain ⟨first, rest, letters, starts, every⟩ := written_key_letters key.toList written
  have no_dash := Text.name_start_ne first '-' starts (by decide)
  have no_bracket : '(' ∉ key.toList := fun member => key_letter_ne '(' '(' (every '(' member) (by decide) rfl
  generalize whole : entryText key text = old at reworded
  cases reworded with
  | key name other after value named behind target =>
      have entry := entry_of_key name after value named behind
      rw [← whole, entryText, entry_of_key key.toList _ _ (written_key_name _ written) (spaced_key_tail text)] at entry
      obtain rfl := (Prod.mk.inj (Option.some.inj entry)).1
      obtain rfl := List.append_cancel_left whole
      exact .inl ⟨String.ofList other, by rw [String.toList_ofList]; exact target, by rw [entryText, String.toList_ofList]⟩
  | item inside other reworded =>
      rw [entryText, letters] at whole
      exact absurd (List.cons.inj whole).1 no_dash
  | call before name other after allowed ink letters opens target =>
      have bracket := opens_bracket after opens
      rcases spaced_cases text with ⟨-, nothing⟩ | ⟨some_text, same⟩
      · have member : '(' ∈ entryText key text := whole ▸ by simp [bracket]
        rw [entryText, nothing] at member
        simp [no_bracket] at member
      · have behind : entryText key text = (key.toList ++ ':' :: [' ']) ++ text := by rw [entryText, same]; simp
        rw [behind] at whole
        obtain ⟨inside, rfl, rfl⟩ := call_behind key.toList [' '] text before name after ':' (by decide) (by decide)
          (by decide) (by simp [no_bracket]) ink letters opens whole
        refine .inr ⟨_, .call inside name other after allowed ink letters opens target, ?_⟩
        rcases spaced_cases (inside ++ (other ++ after)) with ⟨none, -⟩ | ⟨-, shown⟩
        · simp [List.ne_nil_of_mem bracket] at none
        · rw [entryText, shown]
          simp

theorem letter_writable (c : Char) (letter : isKeyLetter c = true) : isWritable c = true ∧ isSingle c = true ∧ isPlain c = true := by
  have flat := visible_flat c (key_letter_visible c letter)
  have other (d : Char) (no_letter : isKeyLetter d = false) : c ≠ d := key_letter_ne c d letter no_letter
  simp only [isFlat, Bool.and_eq_true, decide_eq_true_eq] at flat
  simp [isWritable, isPlain, isSingle, flat, other '"' (by decide), other '\'' (by decide), other '\\' (by decide), other '#' (by decide)]

theorem key_tail_colon (tail value : List Char) (behind : KeyTail tail value) :
    ∃ gap rest, tail = gap ++ ':' :: rest ∧ (∀ c ∈ gap, isGap c = true) ∧ rest.head?.all isGap = true := by
  have colon := behind.colon
  unfold colonValue? at colon
  split at colon
  · rename_i rest found
    split at colon
    · rename_i gap
      refine ⟨tail.takeWhile isGap, rest, ?_, fun c member => List.all_eq_true.mp List.all_takeWhile c member, gap⟩
      rw [← found, List.takeWhile_append_dropWhile]
    · cases colon
  · cases colon

theorem quoted_reworded (quote : Char) (quotes : isQuote quote = true) (held : Char → Bool)
    (letters_held : ∀ c, isKeyLetter c = true → held c = true)
    (spelled : ∀ s : String, s.toList.all held = true → Spelled (.str s) (quote :: (s.toList ++ [quote])))
    (s : String) (plain : s.toList.all held = true) (other : List Char) (reworded : Reworded calls (quote :: (s.toList ++ [quote])) other) :
    ∃ result, Spelled result other ∧ Alike calls (.str s) (.scalar result) := by
  have sign : Text.isBlank quote = false ∧ Text.isWord quote = false ∧ quote ≠ '(' := by
    rcases Bool.or_eq_true_iff.mp quotes with same | same <;> rw [of_decide_eq_true same] <;> decide
  generalize whole : quote :: (s.toList ++ [quote]) = old at reworded
  cases reworded with
  | key name other after value named _ _ =>
      obtain ⟨c, rest, rfl, starts, -⟩ := key_name_cases name named
      rw [← (List.cons.inj whole).1] at starts
      rcases Bool.or_eq_true_iff.mp quotes with same | same <;> rw [of_decide_eq_true same] at starts <;> cases starts
  | item _ _ _ =>
      rw [(List.cons.inj whole).1] at quotes
      cases quotes
  | call before name other after allowed ink letters opens target =>
      obtain ⟨inside, rfl, split⟩ := call_behind [] [] _ before name after quote sign.1 sign.2.1 (by simp) (by simpa using sign.2.2.symm)
        ink letters opens whole
      obtain ⟨behind, bracket, text, rfl⟩ := call_front _ [quote] inside name after (by simpa using sign.2.2.symm) opens split
      have called := opens_bracket behind bracket
      have renamed : other.all held = true := by
        obtain ⟨-, -, -, -, every⟩ := written_key_letters other target
        exact List.all_eq_true.mpr fun c member => letters_held c (every c member)
      rw [text] at plain
      simp only [List.all_append, Bool.and_eq_true] at plain
      have shown := spelled (String.ofList (inside ++ (other ++ behind)))
        (by simp [String.toList_ofList, List.all_append, plain, renamed])
      rw [String.toList_ofList] at shown
      exact ⟨_, by simpa using shown, .text allowed (by rw [text]; simp [called]) (by simp [called])⟩

theorem colons_swapped (front back other : List Char)
    (second : other.head?.any Text.isBlank = false ∧ other ≠ []) (colons : colonsInside (front ++ back) = true)
    (inner : colonsInside other = true) : colonsInside (front ++ other) = true := by
  induction front with
  | nil => exact inner
  | cons c front ih =>
      rw [List.cons_append, colonsInside, Bool.and_eq_true] at colons ⊢
      refine ⟨?_, ih colons.2⟩
      cases front with
      | cons d front => exact colons.1
      | nil =>
          obtain ⟨d, more, rfl⟩ := List.exists_cons_of_ne_nil second.2
          have visible : Text.isBlank d = false := second.1
          simp [visible]

theorem colons_behind_word (word after : List Char) (free : ':' ∉ word) : colonsInside (word ++ after) = colonsInside after := by
  induction word with
  | nil => rfl
  | cons c word ih =>
      simp only [List.mem_cons, not_or] at free
      rw [List.cons_append, colonsInside, ih free.2]
      simp [Ne.symm free.1]

theorem colons_replaced (before name other after : List Char) (ink : name ≠ []) (letters : ∀ c ∈ name, Text.isWord c = true)
    (target : isWrittenKey other = true) (colons : colonsInside (before ++ (name ++ after)) = true) :
    colonsInside (before ++ (other ++ after)) = true := by
  obtain ⟨c, rest, rfl⟩ := List.exists_cons_of_ne_nil ink
  obtain ⟨d, more, rfl, -, others⟩ := written_key_letters other target
  have no_colon : ':' ∉ c :: rest := fun member => absurd (letters ':' member) (by decide)
  have none_either : ':' ∉ d :: more := fun member => absurd (others ':' member) (by decide)
  have inner : colonsInside after = true := by
    induction before with
    | nil => rwa [List.nil_append, colons_behind_word _ after no_colon] at colons
    | cons e before ih =>
        rw [List.cons_append, colonsInside, Bool.and_eq_true] at colons
        exact ih colons.2
  refine colons_swapped before (c :: rest ++ after) (d :: more ++ after) ⟨?_, by simp⟩ colons ?_
  · exact key_letter_visible d (others d List.mem_cons_self)
  · rwa [colons_behind_word _ after none_either]

theorem lower_keeps_bracket (text : List Char) (bracket : '(' ∈ text) : '(' ∈ Text.lower text := by
  have along (cased : Bool) : '(' ∈ Text.lowerAfter cased text := by
    induction text generalizing cased with
    | nil => cases bracket
    | cons c rest ih =>
        rw [Text.lowerAfter]
        rcases List.mem_cons.mp bracket with rfl | inside
        · rw [if_neg (by decide)]
          exact List.mem_append_left _ (by decide)
        · exact List.mem_append_right _ (ih inside _)
  exact along false

theorem bracket_unreserved (text : List Char) (bracket : '(' ∈ text) : isReserved text = false := by
  have no_word (words : List String) (text : List Char) (bracket : '(' ∈ text) (free : ∀ word ∈ words, '(' ∉ word.toList) :
      words.contains (String.ofList text) = false := by
    rw [List.contains_eq_mem, decide_eq_false_iff_not]
    intro member
    have other := free _ member
    rw [String.toList_ofList] at other
    exact other bracket
  have small := lower_keeps_bracket text bracket
  rw [isReserved, no_word nullWords text bracket (by decide), no_word trueWords _ small (by decide), no_word falseWords _ small (by decide)]
  rfl

theorem plain_call (before name other after : List Char) (ink : name ≠ []) (letters : ∀ c ∈ name, Text.isWord c = true)
    (opens : Opens after) (target : isWrittenKey other = true) (plain : IsPlainText (before ++ (name ++ after))) :
    IsPlainText (before ++ (other ++ after)) := by
  have bracket := opens_bracket after opens
  obtain ⟨starts, ends, held, colons, -⟩ := plain
  obtain ⟨d, more, rfl, first, others⟩ := written_key_letters other target
  have some_after := List.ne_nil_of_mem bracket
  refine ⟨?_, ?_, ?_, colons_replaced before name _ after ink letters target colons, bracket_unreserved _ (by simp [bracket])⟩
  · cases before with
    | nil => exact first
    | cons c before => exact starts
  · rw [← List.append_assoc, List.getLast?_append_of_ne_nil _ some_after] at ends ⊢
    exact ends
  · simp only [List.all_append, Bool.and_eq_true] at held ⊢
    exact ⟨held.1, List.all_eq_true.mpr fun c member => (letter_writable c (others c member)).2.2, held.2.2⟩

theorem plain_reworded (s : String) (plain : IsPlainText s.toList) (other : List Char) (reworded : Reworded calls s.toList other) :
    ∃ result, Spelled result other ∧ Alike calls (.str s) (.scalar result) := by
  generalize whole : s.toList = old at reworded plain
  cases reworded with
  | key name other after value named behind _ =>
      obtain ⟨gap, rest, rfl, -, opens⟩ := key_tail_colon after value behind
      have colons := plain.colons
      rw [← List.append_assoc] at colons
      obtain ⟨d, more, rfl, visible⟩ := colons_behind _ rest colons
      have gap : isGap d = true := opens
      rcases Bool.or_eq_true_iff.mp gap with same | same <;> rw [of_decide_eq_true same] at visible <;> cases visible
  | item text other _ => cases plain.starts
  | call before name other after allowed ink letters opens target =>
      have bracket := opens_bracket after opens
      have still := plain_call before name other after ink letters opens target plain
      refine ⟨.str (String.ofList (before ++ (other ++ after))), ?_, .text allowed (by rw [whole]; simp [bracket]) (by simp [bracket])⟩
      have written := Spelled.plain (String.ofList (before ++ (other ++ after))) (by rwa [String.toList_ofList])
      rwa [String.toList_ofList] at written

theorem unworded (text other : List Char) (free : ∀ c ∈ text, c ≠ ':' ∧ c ≠ '(' ∧ c ≠ ' ') : ¬Reworded calls text other := by
  intro reworded
  cases reworded with
  | key name other after value named behind _ =>
      obtain ⟨gap, rest, rfl, -⟩ := key_tail_colon after value behind
      exact absurd rfl (free ':' (by simp)).1
  | item text other _ => exact absurd rfl (free ' ' (by simp)).2.2
  | call before name other after _ _ _ opens _ => exact absurd rfl (free '(' (by simp [opens_bracket after opens])).2.1

theorem int_unworded (i : Int) : ∀ c ∈ Numeral.intText i, c ≠ ':' ∧ c ≠ '(' ∧ c ≠ ' ' := by
  intro c member
  obtain ⟨sign, signs, split⟩ := int_text_cases i
  rw [split, List.mem_append] at member
  rcases member with first | digit
  · rcases signs with rfl | rfl
    · cases first
    · rw [List.mem_singleton.mp first]
      decide
  · have digit := nat_text_digits i.natAbs c digit
    refine ⟨?_, ?_, ?_⟩ <;> rintro rfl <;> cases digit

theorem spelled_reworded (s : Scalar) (text other : List Char) (spelled : Spelled s text) (reworded : Reworded calls text other) :
    ∃ result, Spelled result other ∧ Alike calls (.scalar s) (.scalar result) := by
  cases spelled with
  | str s plain =>
      exact quoted_reworded '"' rfl isWritable (fun c letter => (letter_writable c letter).1) .str s plain other reworded
  | single s plain =>
      exact quoted_reworded '\'' rfl isSingle (fun c letter => (letter_writable c letter).2.1) .single s plain other reworded
  | plain s plain => exact plain_reworded s plain other reworded
  | int i _ => exact absurd reworded (unworded _ other (int_unworded i))
  | _ => exact absurd reworded (unworded _ other (by decide))

section Items

variable {name other : List Char} (allowed : calls) (ink : name ≠ []) (letters : ∀ c ∈ name, Text.isWord c = true)
  (target : isWrittenKey other = true)

include ink letters target in
theorem item_marks_kept (before after : List Char)
    (apart : (before ++ (name ++ after)).head?.any isQuote = true ∨ (before ++ (name ++ after)).any isFlowMark = false) :
    (before ++ (other ++ after)).head?.any isQuote = true ∨ (before ++ (other ++ after)).any isFlowMark = false := by
  rcases apart with quoted | free
  · left
    cases before with
    | nil =>
        obtain ⟨c, rest, rfl⟩ := List.exists_cons_of_ne_nil ink
        have quotes : isQuote c = true := quoted
        have word := letters c List.mem_cons_self
        rcases Bool.or_eq_true_iff.mp quotes with same | same <;> rw [of_decide_eq_true same] at word <;> cases word
    | cons c before => exact quoted
  · right
    obtain ⟨-, -, -, -, every⟩ := written_key_letters other target
    have unmarked : other.any isFlowMark = false := List.any_eq_false.mpr fun c member => by
      have apart (d : Char) (no_letter : isKeyLetter d = false) : c ≠ d := key_letter_ne c d (every c member) no_letter
      simp [isFlowMark, apart ',' (by decide), apart '[' (by decide), apart ']' (by decide), apart '\x7b' (by decide),
        apart '\x7d' (by decide)]
    simp only [List.any_append, Bool.or_eq_false_iff] at free ⊢
    exact ⟨free.1, unmarked, free.2.2⟩

include allowed ink letters target in
theorem flow_item_reworded (s : Scalar) (text before after : List Char) (item : FlowItem s text) (opens : Opens after)
    (split : text = before ++ (name ++ after)) :
    ∃ result, FlowItem result (before ++ (other ++ after)) ∧ Alike calls (.scalar s) (.scalar result) := by
  have reworded : Reworded calls text (before ++ (other ++ after)) := by
    rw [split]
    exact .call before name other after allowed ink letters opens target
  cases item with
  | null => exact absurd reworded (unworded _ _ (by decide))
  | spelled spelled apart =>
      obtain ⟨result, shown, same⟩ := spelled_reworded s text _ spelled reworded
      rw [split] at apart
      exact ⟨result, .spelled shown (item_marks_kept ink letters target before after apart), same⟩

include allowed ink letters target in
theorem flow_items_reworded (items : List Value) (text before after : List Char) (listed : FlowItems items text) (opens : Opens after)
    (split : text = before ++ (name ++ after)) :
    ∃ others, FlowItems others (before ++ (other ++ after)) ∧ AlikeItems calls items others := by
  induction listed generalizing before with
  | last item =>
      obtain ⟨result, shown, same⟩ := flow_item_reworded allowed ink letters target _ _ before after item opens split
      exact ⟨_, .last shown, .cons same .nil⟩
  | @more s items said others item later ih =>
      have whole : (said ++ ',' :: [' ']) ++ others = before ++ (name ++ after) := by rw [← split]; simp
      rcases call_split said [' '] others before name after ',' (by decide) (by decide) (by decide) ink letters opens whole with
        ⟨inside, rfl, rest⟩ | ⟨more, bracket, here⟩
      · obtain ⟨results, shown, same⟩ := ih inside rest
        refine ⟨.scalar s :: results, ?_, .cons (alike_refl _) same⟩
        simpa using FlowItems.more item shown
      · obtain ⟨behind, inner, front, rfl⟩ := call_front said [',', ' '] before name more (by decide) bracket here
        obtain ⟨result, shown, same⟩ := flow_item_reworded allowed ink letters target s said before behind item inner front
        have after_same : after = behind ++ ',' :: ' ' :: others := by
          rw [front] at whole
          simpa using whole.symm
        refine ⟨.scalar result :: items, ?_, .cons same (alike_items_refl items)⟩
        rw [after_same]
        simpa using FlowItems.more shown later

end Items

theorem inline_reworded (value : Value) (text other : List Char) (inline : Inline value text) (reworded : Reworded calls text other) :
    ∃ result, Inline result other ∧ Alike calls value result := by
  cases inline with
  | scalar spelled =>
      obtain ⟨result, shown, same⟩ := spelled_reworded _ text other spelled reworded
      exact ⟨_, .scalar shown, same⟩
  | @items items text listed =>
      generalize whole : '[' :: (text ++ [']']) = old at reworded
      cases reworded with
      | key name other after value named _ _ =>
          obtain ⟨c, rest, rfl, starts, -⟩ := key_name_cases name named
          rw [← (List.cons.inj whole).1] at starts
          cases starts
      | item _ _ _ => cases whole
      | call before name other after allowed ink letters opens target =>
          obtain ⟨inside, rfl, split⟩ := call_behind [] [] _ before name after '[' (by decide) (by decide) (by decide) (by decide)
            ink letters opens whole
          obtain ⟨behind, bracket, here, rfl⟩ := call_front text [']'] inside name after (by decide) opens split
          obtain ⟨others, shown, same⟩ := flow_items_reworded allowed ink letters target items text inside behind listed bracket here
          exact ⟨.list others, by simpa using Inline.items shown, .list same⟩
  | _ => exact absurd reworded (unworded _ other (by decide))

end PipelineLint.Document
