import PipelineLint.Proofs.BlockReadings
import PipelineLint.Proofs.Drawn
import PipelineLint.Proofs.FlowFronts
import PipelineLint.Proofs.JsonSpacing

set_option autoImplicit false

namespace PipelineLint.Document

open Text (Drawn)

/-! ## What a text says of a fault -/

def isHex (c : Char) : Bool :=
  (Text.hexValue? c).isSome

-- The mark of a code point with fewer than four hexadecimal digits behind it.
def HasLooseEscape (text : List Char) : Prop :=
  ∃ rest, '\\' :: 'u' :: rest <:+ text ∧ (rest.takeWhile isHex).length < 4

def HasLongInteger (text : List Char) : Prop :=
  ∃ digits, digits <:+: text ∧ digits.all Text.isDecimal = true ∧ Numeral.maxDigits < digits.length

-- A brace with a bracket or another brace anywhere behind it.
def HasNested (text : List Char) : Prop :=
  ∃ c, opensFlow c = true ∧ List.Sublist ['\x7b', c] text

-- What a fault that is no complaint about the form of a text tells of the text.
def Fault.HasCause (text : List Char) : Fault → Prop
  | .malformed _ _ => True
  | .badEscape => HasLooseEscape text
  | .integerTooLong => HasLongInteger text
  | .collectionAsKey => HasNested text

theorem ink_of_ascii (c : Char) (least : 33 ≤ c.toNat) (most : c.toNat < 128) : Text.isInk c = true := by
  simp only [Text.isInk, Text.isBlank, Bool.not_eq_true', Bool.or_eq_false_iff, Bool.and_eq_false_iff, decide_eq_false_iff_not,
    beq_eq_false_iff_ne]
  omega

theorem hex_ascii (c : Char) (hex : isHex c = true) : c.toNat < 128 := by
  have below (most : Char) (small : most.toNat < 128) (upper : c ≤ most) : c.toNat < 128 := by
    rw [Char.le_def, UInt32.le_iff_toNat_le] at upper
    exact Nat.lt_of_le_of_lt upper small
  unfold isHex Text.hexValue? at hex
  split at hex
  · rename_i digit
    simp only [Char.isDigit, Bool.and_eq_true, decide_eq_true_eq] at digit
    exact below '9' (by decide) digit.2
  · split at hex
    · rename_i letter
      exact below 'f' (by decide) (by simp_all)
    · split at hex
      · rename_i letter
        exact below 'F' (by decide) (by simp_all)
      · cases hex

structure IsRadixDigit (c : Char) : Prop where
  ink : Text.isInk c = true
  unsigned : c ≠ '-' ∧ c ≠ '+'
  unmarked : c ≠ '_' ∧ c.toLower ≠ 'x'
  margin : Numeral.isMargin c = false
  value : ((Numeral.radixDigit? c).filter (· < 16)).isSome = true

theorem hex_digit (c : Char) (hex : isHex c = true) : IsRadixDigit c := by
  have every : ∀ code < 128, isHex (Char.ofNat code) = true → Text.isInk (Char.ofNat code) = true ∧
      (Char.ofNat code ≠ '-' ∧ Char.ofNat code ≠ '+') ∧ (Char.ofNat code ≠ '_' ∧ (Char.ofNat code).toLower ≠ 'x') ∧
      Numeral.isMargin (Char.ofNat code) = false ∧ ((Numeral.radixDigit? (Char.ofNat code)).filter (· < 16)).isSome = true := by
    decide +kernel
  have here := every c.toNat (hex_ascii c hex)
  rw [Char.ofNat_toNat] at here
  obtain ⟨ink, unsigned, unmarked, margin, value⟩ := here hex
  exact ⟨ink, unsigned, unmarked, margin, value⟩

theorem digit_zeros_apart : ∀ base ∈ Text.digitZeros,
    32 < base ∧ (base + 10 ≤ 133 ∨ 160 < base) ∧ (base + 10 ≤ 5760 ∨ 5760 < base) ∧ (base + 10 ≤ 8192 ∨ 12288 < base) := by
  decide

theorem ink_of_decimal (c : Char) (digit : Text.isDecimal c = true) : Text.isInk c = true := by
  unfold Text.isDecimal Text.digitValue? at digit
  split at digit
  · rename_i ascii
    split at digit
    · rename_i numeral
      simp only [Char.isDigit, Bool.and_eq_true, decide_eq_true_eq, UInt32.le_iff_toNat_le] at numeral
      have least : 48 ≤ c.toNat := numeral.1
      exact ink_of_ascii c (by omega) ascii
    · cases digit
  · rw [Option.isSome_map] at digit
    obtain ⟨base, found⟩ := Option.isSome_iff_exists.mp digit
    have apart := digit_zeros_apart base (List.mem_of_find?_eq_some found)
    have inside := List.find?_some found
    simp only [Bool.and_eq_true, decide_eq_true_eq] at inside
    simp only [Text.isInk, Text.isBlank, Bool.not_eq_true', Bool.or_eq_false_iff, Bool.and_eq_false_iff, decide_eq_false_iff_not,
      beq_eq_false_iff_ne]
    omega

theorem run_in_word (passes : Char → Bool) (inked : ∀ c, passes c = true → Text.isInk c = true) (text source : List Char)
    (same : text.takeWhile Text.isInk = source.takeWhile Text.isInk) : text.takeWhile passes = source.takeWhile passes := by
  have inside (text : List Char) : (text.takeWhile Text.isInk).takeWhile passes = text.takeWhile passes := by
    rw [List.takeWhile_takeWhile]
    congr 1
    funext c
    cases passed : passes c <;> simp [passed, inked c]
  rw [← inside text, same, inside]

theorem word_start (c : Char) (text source : List Char) (inked : Text.isInk c = true)
    (same : (c :: text).takeWhile Text.isInk = source.takeWhile Text.isInk) :
    ∃ more, source = c :: more ∧ text.takeWhile Text.isInk = more.takeWhile Text.isInk := by
  rw [List.takeWhile_cons_of_pos inked] at same
  cases source with
  | nil => cases same
  | cons d more =>
      cases other : Text.isInk d with
      | false =>
          rw [List.takeWhile_cons_of_neg (by simp [other])] at same
          cases same
      | true =>
          rw [List.takeWhile_cons_of_pos other] at same
          obtain ⟨rfl, behind⟩ := List.cons.inj same
          exact ⟨more, rfl, behind⟩

theorem loose_escape_drawn (text source : List Char) (drawn : Drawn text source) (loose : HasLooseEscape text) :
    HasLooseEscape source := by
  obtain ⟨rest, suffix, few⟩ := loose
  obtain ⟨found, below, aligned⟩ := drawn _ suffix
  obtain ⟨behind, rfl, same⟩ := word_start '\\' _ found (by decide) aligned.word
  obtain ⟨more, rfl, last⟩ := word_start 'u' rest behind (by decide) same
  exact ⟨more, below, by rwa [← run_in_word isHex (fun c hex => (hex_digit c hex).ink) rest more last]⟩

theorem long_integer_drawn (text source : List Char) (drawn : Drawn text source) (long : HasLongInteger text) :
    HasLongInteger source := by
  obtain ⟨digits, ⟨front, back, split⟩, decimal, size⟩ := long
  obtain ⟨found, below, aligned⟩ := drawn (digits ++ back) ⟨front, by rw [← split, List.append_assoc]⟩
  have run := run_in_word Text.isDecimal ink_of_decimal _ _ aligned.word
  rw [List.takeWhile_append_of_pos (List.all_eq_true.mp decimal)] at run
  refine ⟨digits ++ back.takeWhile Text.isDecimal, ?_, ?_, ?_⟩
  · rw [run]
    exact (List.takeWhile_prefix _).isInfix.trans below.isInfix
  · rw [run]
    exact List.all_takeWhile
  · rw [List.length_append]
    omega

theorem nested_drawn (text source : List Char) (drawn : Drawn text source) (nested : HasNested text) : HasNested source := by
  obtain ⟨c, opens, below⟩ := nested
  refine ⟨c, opens, ?_⟩
  have inked : List.filter Text.isInk ['\x7b', c] = ['\x7b', c] := by
    simp only [opensFlow, Bool.or_eq_true, decide_eq_true_eq] at opens
    rcases opens with rfl | rfl <;> decide
  rw [← inked]
  exact (below.filter Text.isInk).trans ((Text.drawn_order text source drawn).trans List.filter_sublist)

theorem cause_drawn (fault : Fault) (text source : List Char) (drawn : Drawn text source) (cause : fault.HasCause text) :
    fault.HasCause source := by
  cases fault with
  | malformed complaint line => trivial
  | badEscape => exact loose_escape_drawn text source drawn cause
  | integerTooLong => exact long_integer_drawn text source drawn cause
  | collectionAsKey => exact nested_drawn text source drawn cause

/-! ## Values on one line -/

theorem cause_suffix (fault : Fault) (text source : List Char) (suffix : text <:+ source) (cause : fault.HasCause text) :
    fault.HasCause source :=
  cause_drawn fault text source (Text.drawn_suffix text source suffix) cause

def Caused {ε α : Type} (cause : ε → Prop) (text : List Char) : Except ε (α × List Char) → Prop
  | .ok front => front.2 <:+ text
  | .error fault => cause fault

section

variable {ε α β : Type} {cause : ε → Prop} {text : List Char}

theorem caused_rest {bound : List Char → Prop} {taken : Except ε (α × { rest : List Char // bound rest })}
    {front : α × { rest : List Char // bound rest }} (caused : Caused cause text (frontOf taken)) (read : taken = .ok front) :
    front.2.1 <:+ text := by
  rw [read] at caused
  exact caused

theorem caused_fault {bound : List Char → Prop} {taken : Except ε (α × { rest : List Char // bound rest })} {fault : ε}
    (caused : Caused cause text (frontOf taken)) (read : taken = .error fault) : cause fault := by
  rw [read] at caused
  exact caused

theorem caused_bind {first : ε → Prop} (taken : Except ε (α × List Char)) (next : α × List Char → Except ε (β × List Char))
    (weaker : ∀ fault, first fault → cause fault) (caused : Caused first text taken)
    (onward : ∀ value rest, taken = .ok (value, rest) → rest <:+ text → Caused cause text (next (value, rest))) :
    Caused cause text (taken.bind next) := by
  cases taken with
  | error fault => exact weaker fault caused
  | ok front => exact onward front.1 front.2 rfl caused

theorem caused_map {first : ε → Prop} {part : List Char} (give : α → β) (taken : Except ε (α × List Char))
    (weaker : ∀ fault, first fault → cause fault) (suffix : part <:+ text) (caused : Caused first part taken) :
    Caused cause text (taken.map fun front => (give front.1, front.2)) := by
  cases taken with
  | error fault => exact weaker fault caused
  | ok front => exact List.IsSuffix.trans caused suffix

end

theorem hex_digits_read (before : Option Nat) (digits : List Char) (hex : digits.all isHex = true)
    (some_digit : before.isSome = true ∨ digits ≠ []) : (Numeral.radixDigits? 16 before digits).isSome = true := by
  fun_induction Numeral.radixDigits? 16 before digits with
  | case1 before => exact some_digit.resolve_right (not_not_intro rfl)
  | case2 value c rest digit found ih => cases hex
  | case3 value c rest none => cases hex
  | case4 before c rest _ digit found ih => exact ih (by simp_all) (.inl rfl)
  | case5 before c rest _ missing =>
      have read := (hex_digit c (by simp_all)).value
      rw [missing] at read
      cases read

theorem code_read (a b c d : Char) (hex : [a, b, c, d].all isHex = true) : (escapedCode? [a, b, c, d]).isSome = true := by
  have each := List.all_eq_true.mp hex
  have first := hex_digit a (each a (by simp))
  have second := hex_digit b (each b (by simp))
  have last := hex_digit d (each d (by simp))
  have trimmed : Numeral.trimMargins [a, b, c, d] = [a, b, c, d] := by
    simp [Numeral.trimMargins, Text.dropTrailing, first.margin, last.margin]
  have unsigned : Numeral.takeSign [a, b, c, d] = (false, [a, b, c, d]) := by
    simp [Numeral.takeSign, first.unsigned]
  have unmarked : Numeral.behindRadixMark 16 [a, b, c, d] = [a, b, c, d] := by
    have no_letter : Numeral.radixMark? 16 ≠ some b.toLower := fun same => second.unmarked.2 (Option.some.inj same).symm
    simp [Numeral.behindRadixMark, no_letter]
  obtain ⟨code, read⟩ := Option.isSome_iff_exists.mp (hex_digits_read none [a, b, c, d] hex (.inr (by simp)))
  simp [escapedCode?, Numeral.radixInteger?, trimmed, unsigned, unmarked, read]

theorem single_rest (text content rest : List Char) (closed : takeSingle text = .closed content rest) : rest <:+ text := by
  fun_induction takeSingle text generalizing content with
  | case1 => cases closed
  | case2 tail ih =>
      obtain ⟨before, inner⟩ := QuotedText.push_eq_closed closed
      exact (ih before inner).trans ((List.suffix_cons _ _).trans (List.suffix_cons _ _))
  | case3 tail =>
      cases closed
      exact List.suffix_cons _ _
  | case4 c tail _ _ ih =>
      obtain ⟨before, inner⟩ := QuotedText.push_eq_closed closed
      exact (ih before inner).trans (List.suffix_cons _ _)

theorem double_rest (text content rest : List Char) (closed : takeDouble text = .closed content rest) : rest <:+ text := by
  fun_induction takeDouble text generalizing content with
  | case1 => cases closed
  | case2 tail =>
      cases closed
      exact List.suffix_cons _ _
  | case3 a b c d tail code _ ih =>
      obtain ⟨before, inner⟩ := QuotedText.push_eq_closed closed
      exact (ih before inner).trans (List.suffix_append ['\\', 'u', a, b, c, d] tail)
  | case4 => cases closed
  | case5 c tail _ plain _ ih =>
      obtain ⟨before, inner⟩ := QuotedText.push_eq_closed closed
      exact (ih before inner).trans (List.suffix_append ['\\', c] tail)
  | case6 c tail _ _ ih =>
      obtain ⟨outer, more⟩ := QuotedText.push_eq_closed closed
      obtain ⟨before, inner⟩ := QuotedText.push_eq_closed more
      exact (ih before inner).trans (List.suffix_append ['\\', c] tail)
  | case7 c tail _ _ _ ih =>
      obtain ⟨before, inner⟩ := QuotedText.push_eq_closed closed
      exact (ih before inner).trans (List.suffix_cons _ _)

theorem pushed_bad (c : Char) (inside : QuotedText) (bad : inside.push c = .badEscape) : inside = .badEscape := by
  cases inside with
  | badEscape => rfl
  | closed content rest => cases bad
  | unterminated => cases bad

theorem single_no_escape (text : List Char) : takeSingle text ≠ .badEscape := by
  intro bad
  fun_induction takeSingle text with
  | case1 => cases bad
  | case2 tail ih => exact ih (pushed_bad _ _ bad)
  | case3 tail => cases bad
  | case4 c tail _ _ ih => exact ih (pushed_bad _ _ bad)

theorem double_loose (text : List Char) (bad : takeDouble text = .badEscape) : HasLooseEscape text := by
  have behind (front rest : List Char) (loose : HasLooseEscape rest) : HasLooseEscape (front ++ rest) :=
    cause_suffix .badEscape rest _ (List.suffix_append front rest) loose
  fun_induction takeDouble text with
  | case1 => cases bad
  | case2 => cases bad
  | case3 a b c d tail code _ ih => exact behind ['\\', 'u', a, b, c, d] tail (ih (pushed_bad _ _ bad))
  | case4 a b c d tail no_code =>
      refine ⟨a :: b :: c :: d :: tail, List.suffix_refl _, ?_⟩
      by_contra enough
      have hex : [a, b, c, d].all isHex = true := by
        cases first : isHex a <;> cases second : isHex b <;> cases third : isHex c <;> cases fourth : isHex d <;>
          simp_all
      have read := code_read a b c d hex
      rw [no_code] at read
      cases read
  | case5 c tail _ plain _ ih => exact behind ['\\', c] tail (ih (pushed_bad _ _ bad))
  | case6 c tail _ _ ih => exact behind ['\\', c] tail (ih (pushed_bad _ _ (pushed_bad _ _ bad)))
  | case7 c tail _ _ _ ih => exact behind [c] tail (ih (pushed_bad _ _ bad))

theorem unsigned_suffix (text : List Char) : (Numeral.takeSign text).2 <:+ text := by
  unfold Numeral.takeSign
  split
  · exact List.suffix_cons _ _
  · exact List.suffix_cons _ _
  · exact List.suffix_refl _

theorem integer_digits (text digits : List Char) (negative : Bool) (read : Numeral.integer? text = some (negative, digits)) :
    digits <:+: text ∧ digits.all Text.isDecimal = true := by
  unfold Numeral.integer? at read
  simp only at read
  split at read
  · cases read
    exact ⟨(List.takeWhile_prefix _).isInfix.trans (unsigned_suffix text).isInfix, List.all_takeWhile⟩
  · cases read

theorem bounded_missing (negative : Bool) (digits : List Char) (missing : Numeral.boundedValue? negative digits = none) :
    Numeral.maxDigits < digits.length := by
  unfold Numeral.boundedValue? at missing
  split at missing
  · assumption
  · cases missing

theorem plain_caused (around text : List Char) (fault : Fault) (part : text <:+: around) (failed : coercePlain text = .error fault) :
    fault.HasCause around := by
  unfold coercePlain at failed
  simp only at failed
  split at failed
  · cases failed
  · split at failed
    · cases failed
    · split at failed
      · cases failed
      · split at failed
        · rename_i negative digits read
          split at failed
          · cases failed
          · rename_i missing
            cases failed
            obtain ⟨inside, decimal⟩ := integer_digits text digits negative read
            exact ⟨digits, inside.trans part, decimal, bounded_missing negative digits missing⟩
        · split at failed <;> cases failed

theorem quoted_caused (quote : Char) (text : List Char) : Caused (Fault.HasCause text) text (frontOf (takeQuoted quote text)) := by
  unfold takeQuoted
  split
  · split
    · exact single_rest text _ _ ‹_›
    · exact absurd ‹_› (single_no_escape text)
    · trivial
  · split
    · exact double_rest text _ _ ‹_›
    · exact double_loose text ‹_›
    · trivial

theorem plain_scalar (text : List Char) (value : Value) (read : coercePlain text = .ok value) : ∃ s, value = .scalar s := by
  unfold coercePlain at read
  simp only at read
  repeat' split at read
  all_goals first | cases read; exact ⟨_, rfl⟩ | cases read

theorem collection_opens (whole stops text : List Char) (taken : Value × List Char) (front : flowFront? whole stops text = some taken)
    (no_key : taken.1.key? = none) : ∃ c ∈ text, opensFlow c = true := by
  induction text with
  | nil =>
      rw [flow_front_nil] at front
      cases front
  | cons c rest ih =>
      by_cases opens : opensFlow c = true
      · exact ⟨c, List.mem_cons_self, opens⟩
      · rw [flow_front_cons] at front
        simp only [opensFlow, Bool.or_eq_true, decide_eq_true_eq, not_or] at opens
        split at front
        · obtain ⟨d, member, found⟩ := ih front
          exact ⟨d, List.mem_cons_of_mem c member, found⟩
        · rw [if_neg opens.1, if_neg opens.2] at front
          split at front
          · obtain ⟨quoted, -, rfl⟩ := Option.map_eq_some_iff.mp front
            cases no_key
          · unfold plainFront? at front
            split at front
            · rename_i value read
              cases front
              obtain ⟨s, rfl⟩ := plain_scalar _ value read
              cases no_key
            · cases front

theorem cause_behind_brace (fault : Fault) (more text : List Char) (suffix : more <:+ text) (cause : fault.HasCause ('\x7b' :: more)) :
    fault.HasCause ('\x7b' :: text) := by
  have wider := cause_suffix fault more ('\x7b' :: text) (suffix.trans (List.suffix_cons _ _))
  cases fault with
  | malformed complaint line => trivial
  | badEscape =>
      obtain ⟨rest, below, few⟩ := cause
      rcases List.suffix_cons_iff.mp below with same | inside
      · cases same
      · exact wider ⟨rest, inside, few⟩
  | integerTooLong =>
      obtain ⟨digits, inside, decimal, size⟩ := cause
      rcases List.infix_cons_iff.mp inside with ahead | behind
      · cases digits with
        | nil => exact absurd size (by decide)
        | cons digit others =>
            obtain ⟨rfl, -⟩ := List.cons_prefix_cons.mp ahead
            cases decimal
      · exact wider ⟨digits, behind, decimal, size⟩
  | collectionAsKey =>
      obtain ⟨c, opens, below⟩ := cause
      exact ⟨c, opens, below.trans (suffix.sublist.cons_cons _)⟩

theorem skipped_suffix (text rest : List Char) (c : Char) (next : skipFlowSpaces text = c :: rest) : rest <:+ text := by
  have suffix : skipFlowSpaces text <:+ text := List.dropWhile_suffix _
  rw [next] at suffix
  exact (List.suffix_cons c rest).trans suffix

theorem trim_inside (text : List Char) : Text.trim text <:+: text := by
  obtain ⟨dropped, split, -⟩ := Text.dropTrailing_append_dropped Text.isBlank (Text.trimLeft text)
  have front : Text.trim text <+: Text.trimLeft text := ⟨dropped, split.symm⟩
  exact front.isInfix.trans (List.dropWhile_suffix _).isInfix

theorem behind_key_caused (whole text after : List Char) (shorter : after.length ≤ text.length)
    (flow : ∀ rest, rest.length < text.length → Caused (Fault.HasCause rest) rest (frontOf (takeFlow whole entryStops rest))) :
    Caused (Fault.HasCause after) after (frontOf (takeBehindKey whole text after shorter)) := by
  unfold takeBehindKey
  split
  · rename_i rest colon
    have behind := skipped_suffix after rest ':' colon
    have fewer := behind_colon_smaller shorter colon
    dsimp only
    split
    · exact behind
    · exact behind
    · cases read : takeFlow whole entryStops rest with
      | error fault => exact cause_suffix fault rest after behind (caused_fault (flow rest fewer) read)
      | ok front => exact (caused_rest (flow rest fewer) read).trans behind
  · exact List.suffix_refl after

theorem keyless_opens (whole text : List Char) (front : Value × Remainder text) (read : takeFlow whole keyStops text = .ok front)
    (no_key : front.1.key? = none) : HasNested ('\x7b' :: text) := by
  have taken : flowFront? whole keyStops text = some (front.1, front.2.1) := by
    rw [flowFront?, read]
    rfl
  obtain ⟨c, member, opens⟩ := collection_opens whole keyStops text _ taken no_key
  exact ⟨c, opens, (List.singleton_sublist.mpr member).cons_cons _⟩

mutual

theorem flow_caused (whole stops text : List Char) : Caused (Fault.HasCause text) text (frontOf (takeFlow whole stops text)) := by
  cases text with
  | nil =>
      rw [takeFlow]
      trivial
  | cons c rest =>
      have first : rest <:+ c :: rest := List.suffix_cons c rest
      rw [takeFlow]
      split
      · have inner := flow_caused whole stops rest
        cases read : takeFlow whole stops rest with
        | error fault => exact cause_suffix fault rest _ first (caused_fault inner read)
        | ok front => exact (caused_rest inner read).trans first
      · split
        · have inner := flow_items_caused whole rest
          cases read : takeFlowItems whole rest with
          | error fault => exact cause_suffix fault rest _ first (caused_fault inner read)
          | ok front => exact (caused_rest inner read).trans first
        · split
          · rename_i brace
            have inner := flow_entries_caused whole [] rest
            rw [brace] at first ⊢
            cases read : takeFlowEntries whole [] rest with
            | error fault =>
                have failed := caused_fault inner read
                exact failed
            | ok front => exact (caused_rest inner read).trans first
          · split
            · have inner := quoted_caused c rest
              cases read : takeQuoted c rest with
              | error fault => exact cause_suffix fault rest _ first (caused_fault inner read)
              | ok front => exact (caused_rest inner read).trans first
            · dsimp only
              cases read : coercePlain (Text.trim ((c :: rest).takeWhile fun d => !stops.contains d)) with
              | ok value => exact List.dropWhile_suffix _
              | error fault =>
                  exact plain_caused _ _ fault ((trim_inside _).trans (List.takeWhile_prefix _).isInfix) read
termination_by 2 * text.length

theorem flow_items_caused (whole text : List Char) : Caused (Fault.HasCause text) text (frontOf (takeFlowItems whole text)) := by
  rw [takeFlowItems]
  split
  · exact skipped_suffix text _ _ ‹_›
  · have item := flow_caused whole itemStops text
    cases read : takeFlow whole itemStops text with
    | error fault =>
        have failed := caused_fault item read
        exact failed
    | ok front =>
        have behind : front.2.1 <:+ text := caused_rest item read
        dsimp only
        split
        · rename_i more next
          have inside := (skipped_suffix _ more ',' next).trans behind
          have fewer := Nat.lt_of_lt_of_le (spaces_shorter _ more ',' next) front.2.2
          have others := flow_items_caused whole more
          cases last : takeFlowItems whole more with
          | error fault => exact cause_suffix fault more text inside (caused_fault others last)
          | ok final => exact (caused_rest others last).trans inside
        · exact (skipped_suffix _ _ ']' ‹_›).trans behind
        · trivial
termination_by 2 * text.length + 1

theorem flow_entries_caused (whole : List Char) (entries : Entries) (text : List Char) :
    Caused (Fault.HasCause ('\x7b' :: text)) text (frontOf (takeFlowEntries whole entries text)) := by
  have brace : text <:+ '\x7b' :: text := List.suffix_cons _ text
  rw [takeFlowEntries]
  split
  · exact skipped_suffix text _ _ ‹_›
  · have named := flow_caused whole keyStops text
    cases read : takeFlow whole keyStops text with
    | error fault => exact cause_suffix fault text _ brace (caused_fault named read)
    | ok front =>
        obtain ⟨key, after, shorter⟩ := front
        have behind : after <:+ text := caused_rest named read
        have held := behind_key_caused whole text after shorter fun rest fewer => flow_caused whole entryStops rest
        dsimp only
        split
        · rename_i fault found
          have failed : takeBehindKey whole text after shorter = .error fault := found
          exact cause_suffix fault after _ (behind.trans brace) (caused_fault held failed)
        · rename_i value last bound found
          have given : takeBehindKey whole text after shorter = .ok (value, ⟨last, bound⟩) := found
          have left : last <:+ text := List.IsSuffix.trans (caused_rest held given) behind
          split
          · exact keyless_opens whole text _ read ‹_›
          · split
            · rename_i more next
              have inside := (skipped_suffix last more ',' next).trans left
              have fewer := Nat.lt_of_lt_of_le (spaces_shorter last more ',' next) bound
              have others := flow_entries_caused whole (entries.put ‹_› value) more
              cases end_ : takeFlowEntries whole (entries.put ‹_› value) more with
              | error fault => exact cause_behind_brace fault more text inside (caused_fault others end_)
              | ok final => exact (caused_rest others end_).trans inside
            · exact (skipped_suffix last _ '\x7d' ‹_›).trans left
            · trivial
termination_by 2 * text.length + 1

end

theorem flow_cause (text : List Char) (fault : Fault) (failed : readFlow text = .error fault) : fault.HasCause text := by
  unfold readFlow at failed
  split at failed
  · rename_i found read
    cases failed
    exact caused_fault (flow_caused text _ text) read
  · split at failed
    · cases failed
    · cases failed
      trivial

theorem inline_cause (text : List Char) (fault : Fault) (failed : readInline text = .error fault) : fault.HasCause text := by
  have trimmed := Text.drawn_trim text
  unfold readInline at failed
  split at failed
  · cases failed
  · rename_i c rest same
    rw [same] at trimmed
    split at failed
    · exact cause_drawn fault _ text trimmed (flow_cause _ fault failed)
    · split at failed
      · split at failed
        · rename_i found read
          cases failed
          have inside := caused_fault (quoted_caused c rest) read
          exact cause_drawn fault _ text trimmed (cause_suffix fault rest _ (List.suffix_cons c rest) inside)
        · split at failed
          · cases failed
          · cases failed
            trivial
      · exact cause_drawn fault _ text trimmed (plain_caused _ _ fault (List.infix_refl _) failed)

end PipelineLint.Document

/-! ## JSON -/

namespace PipelineLint.Json

open Document (HasLongInteger Caused caused_rest caused_fault caused_bind caused_map)

def Fault.HasCause (text : List Char) : Fault → Prop
  | .integerTooLong => HasLongInteger text
  | _ => True

theorem cause_within (short long : List Char) (part : short <:+: long) (fault : Fault) (cause : fault.HasCause short) :
    fault.HasCause long := by
  cases fault with
  | malformed => trivial
  | tooDeep => trivial
  | integerTooLong =>
      obtain ⟨digits, inside, decimal, size⟩ := cause
      exact ⟨digits, inside.trans part, decimal, size⟩

theorem caused_wider {α : Type} {short long : List Char} (taken : Except Fault (α × List Char)) (suffix : short <:+ long)
    (caused : Caused (Fault.HasCause short) short taken) : Caused (Fault.HasCause long) long taken := by
  cases taken with
  | error fault => exact cause_within short long suffix.isInfix fault caused
  | ok front => exact List.IsSuffix.trans caused suffix

theorem units_rest (text after : List Char) (units : List Nat) (taken : takeUnits? text = some (units, after)) : after <:+ text := by
  fun_induction takeUnits? text generalizing units after with
  | case1 => cases taken
  | case2 rest =>
      cases taken
      exact List.suffix_cons _ _
  | case3 a b c d rest unit others left inside _ ih =>
      cases taken
      exact (ih _ _ inside).trans (List.suffix_append ['\\', 'u', a, b, c, d] rest)
  | case5 c rest _ plain others left inside _ ih =>
      cases taken
      exact (ih _ _ inside).trans (List.suffix_append ['\\', c] rest)
  | case8 c rest _ _ _ _ others left inside ih =>
      cases taken
      exact (ih _ _ inside).trans (List.suffix_cons c rest)
  | _ => cases taken

theorem string_caused (text : List Char) : Caused (Fault.HasCause text) text (frontOf (takeString text)) := by
  unfold takeString
  split
  · exact units_rest text _ _ ‹_›
  · trivial

theorem word_rest (word text rest : List Char) (taken : afterWord? word text = some rest) : rest <:+ text := by
  fun_induction afterWord? word text with
  | case1 text =>
      cases taken
      exact List.suffix_refl _
  | case3 word c rest ih => exact (ih taken).trans (List.suffix_cons c rest)
  | _ => cases taken

theorem decimal_of_digit (c : Char) (digit : c.isDigit = true) : Text.isDecimal c = true := by
  have small : c.toNat < 128 := by
    simp only [Char.isDigit, Bool.and_eq_true, decide_eq_true_eq, UInt32.le_iff_toNat_le] at digit
    exact Nat.lt_of_le_of_lt digit.2 (by decide)
  rw [Text.isDecimal, Text.digitValue?, if_pos small, if_pos digit]
  rfl

theorem whole_digits (text digits rest : List Char) (taken : takeWhole? text = some (digits, rest)) :
    rest <:+ text ∧ digits <:+: text ∧ digits.all Text.isDecimal = true := by
  fun_cases takeWhole? text with
  | case1 after =>
      cases taken
      exact ⟨List.suffix_cons _ _, ⟨[], _, rfl⟩, by decide⟩
  | case2 c after _ digit =>
      rw [takeWhole?, if_pos digit] at taken
      · cases taken
        refine ⟨(List.dropWhile_suffix _).trans (List.suffix_cons c after), ?_, ?_⟩
        · exact ((List.prefix_cons_inj c).mpr (List.takeWhile_prefix _)).isInfix
        · refine List.all_eq_true.mpr fun d member => decimal_of_digit d ?_
          rcases List.mem_cons.mp member with rfl | inside
          · exact digit
          · exact List.all_eq_true.mp List.all_takeWhile d inside
      · assumption
  | case3 c after _ no_digit =>
      rw [takeWhole?, if_neg no_digit] at taken
      · cases taken
      · assumption
  | case4 => cases taken

theorem exponent_rest (text : List Char) : (takeExponent text).2 <:+ text := by
  unfold takeExponent
  split
  · split
    · dsimp only
      split
      · exact List.suffix_refl _
      · exact (List.dropWhile_suffix _).trans ((Document.unsigned_suffix _).trans (List.suffix_cons _ _))
    · exact List.suffix_refl _
  · exact List.suffix_refl _

theorem inside_fault (levels : Levels) (fault : Fault) (deep : levels.inside = .error fault) : fault = .tooDeep := by
  unfold Levels.inside at deep
  split at deep <;> cases deep
  rfl

theorem number_caused (negative : Bool) (text : List Char) : Caused (Fault.HasCause text) text (frontOf (takeNumber negative text)) := by
  rw [number_front]
  cases taken : takeWhole? text with
  | none => trivial
  | some front =>
      obtain ⟨whole, rest⟩ := front
      obtain ⟨behind, inside, decimal⟩ := whole_digits text whole rest taken
      have fraction : (takeFraction rest).2 <:+ rest := by
        unfold takeFraction
        split
        · split
          · exact List.suffix_refl _
          · exact (List.dropWhile_suffix _).trans (List.suffix_cons _ _)
        · exact List.suffix_refl _
      have left := (exponent_rest _).trans (fraction.trans behind)
      simp only [orMalformed, Except.bind]
      cases number : numberOf negative whole (takeFraction rest).1 (takeExponent (takeFraction rest).2).1 with
      | ok value => exact left
      | error fault =>
          unfold numberOf at number
          split at number
          · split at number
            · cases number
            · cases number
              exact ⟨whole, inside, decimal, Document.bounded_missing negative whole ‹_›⟩
          · cases number

theorem simple_caused (text : List Char) : Caused (Fault.HasCause text) text (frontOf (takeSimple text)) := by
  cases word : takeWord? text with
  | some front =>
      rw [simple_word text front.2 front.1 word]
      obtain ⟨entry, -, found⟩ := List.exists_of_findSome?_eq_some word
      obtain ⟨rest, left, rfl⟩ := Option.map_eq_some_iff.mp found
      exact word_rest _ text rest left
  | none =>
      rw [simple_other text word]
      by_cases minus : ∃ rest, text = '-' :: rest
      · obtain ⟨rest, rfl⟩ := minus
        have behind : rest <:+ '-' :: rest := List.suffix_cons '-' rest
        rw [signed_minus]
        have inner := number_caused true rest
        cases read : takeNumber true rest with
        | error fault => exact cause_within rest _ behind.isInfix fault (caused_fault inner read)
        | ok front => exact (caused_rest inner read).trans behind
      · rw [signed_plain text fun rest found => minus ⟨rest, found⟩]
        exact number_caused false text

theorem skipped_rest (text rest : List Char) (c : Char) (next : skipSpaces text = c :: rest) : rest <:+ text := by
  have suffix : skipSpaces text <:+ text := List.dropWhile_suffix _
  rw [next] at suffix
  exact (List.suffix_cons c rest).trans suffix

mutual

theorem value_caused (levels : Levels) (text : List Char) : Caused (Fault.HasCause text) text (valueFront levels text) := by
  have wider (rest : List Char) (suffix : rest <:+ text) := cause_within rest text suffix.isInfix
  by_cases quote : ∃ rest, text = '"' :: rest
  · obtain ⟨rest, rfl⟩ := quote
    rw [value_string]
    exact caused_map Value.str _ (wider rest (List.suffix_cons _ _)) (List.suffix_cons _ _) (string_caused rest)
  · by_cases list : ∃ rest, text = '[' :: rest
    · obtain ⟨rest, rfl⟩ := list
      have behind := List.suffix_cons '[' rest
      rw [value_list]
      cases deeper : levels.inside with
      | error fault =>
          rw [inside_fault levels fault deeper]
          trivial
      | ok inside =>
          simp only [Except.bind]
          split
          · exact (skipped_rest rest _ ']' ‹_›).trans behind
          · exact caused_map Value.list _ (wider rest behind) behind (items_caused inside rest)
    · by_cases mapping : ∃ rest, text = '\x7b' :: rest
      · obtain ⟨rest, rfl⟩ := mapping
        have behind := List.suffix_cons '\x7b' rest
        rw [value_mapping]
        cases deeper : levels.inside with
        | error fault =>
            rw [inside_fault levels fault deeper]
            trivial
        | ok inside =>
            simp only [Except.bind]
            split
            · exact (skipped_rest rest _ '\x7d' ‹_›).trans behind
            · exact caused_map Value.map _ (wider rest behind) behind (members_caused inside [] rest)
      · rw [value_simple levels text (fun rest found => quote ⟨rest, found⟩) (fun rest found => list ⟨rest, found⟩)
          fun rest found => mapping ⟨rest, found⟩]
        exact simple_caused text
termination_by 2 * text.length

theorem items_caused (levels : Levels) (text : List Char) : Caused (Fault.HasCause text) text (itemsFront levels text) := by
  have spaced : skipSpaces text <:+ text := List.dropWhile_suffix _
  have lower := spaced.length_le
  rw [items_front]
  refine caused_bind _ _ (fun _ => id) (caused_wider _ spaced (value_caused levels (skipSpaces text))) fun item rest found behind => ?_
  have shorter := front_shorter _ rest item _ found
  dsimp only
  split
  · exact (skipped_rest rest _ ']' ‹_›).trans behind
  · rename_i next comma
    have inside := (skipped_rest rest next ',' comma).trans behind
    have fewer := skip_shorter rest next ',' comma
    exact caused_map (item :: ·) _ (cause_within next text inside.isInfix) inside (items_caused levels next)
  · trivial
termination_by 2 * text.length + 1

theorem members_caused (levels : Levels) (entries : Entries) (text : List Char) :
    Caused (Fault.HasCause text) text (membersFront levels entries text) := by
  rw [members_front]
  split
  · rename_i inside opened
    have first := skip_shorter text inside '"' opened
    have behind := skipped_rest text inside '"' opened
    refine caused_wider _ behind (caused_bind _ _ (fun _ => id) (string_caused inside) fun key rest found left => ?_)
    have second := front_shorter inside rest key _ found
    dsimp only
    split
    · rename_i value colon
      have third := skip_shorter rest value ':' colon
      have below := (skipped_rest rest value ':' colon).trans left
      have spaced : skipSpaces value <:+ value := List.dropWhile_suffix _
      have fourth := spaced.length_le
      refine caused_wider _ (spaced.trans below)
        (caused_bind _ _ (fun _ => id) (value_caused levels (skipSpaces value)) fun held left found after => ?_)
      have fifth := front_shorter _ left held _ found
      dsimp only
      split
      · exact (skipped_rest left _ '\x7d' ‹_›).trans after
      · rename_i next comma
        have sixth := skip_shorter left next ',' comma
        exact caused_wider _ ((skipped_rest left next ',' comma).trans after) (members_caused levels _ next)
      · trivial
    · trivial
  · trivial
termination_by 2 * text.length + 1

end

theorem read_cause (levels : Levels) (text : List Char) (long : read levels text = .error .integerTooLong) : HasLongInteger text := by
  have spaced : skipSpaces text <:+ text := List.dropWhile_suffix _
  have caused := value_caused levels (skipSpaces text)
  rw [read_front] at long
  cases taken : valueFront levels (skipSpaces text) with
  | error fault =>
      rw [taken] at long caused
      cases long
      exact cause_within _ text spaced.isInfix .integerTooLong caused
  | ok front =>
      rw [taken] at long
      simp only [Except.bind] at long
      split at long <;> cases long

end PipelineLint.Json
