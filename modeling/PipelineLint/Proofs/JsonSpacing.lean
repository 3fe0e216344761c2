import PipelineLint.Json.Reader
import PipelineLint.Proofs.Runs

set_option autoImplicit false

namespace PipelineLint.Json

/-! ## More spaces -/

structure Breaks (c : Char) : Prop where
  space : isSpace c = true
  control : c.toNat < 32

-- The second text has other spaces where the first one has line feeds.
inductive Respaced : List Char → List Char → Prop where
  | nil : Respaced [] []
  | cons (c : Char) (text other : List Char) (behind : Respaced text other) : Respaced (c :: text) (c :: other)
  | feed (first : Char) (gap text other : List Char) (breaks : Breaks first) (spaces : ∀ c ∈ gap, isSpace c = true)
      (behind : Respaced text other) : Respaced ('\n' :: text) (first :: (gap ++ other))

theorem respaced_cons (c : Char) (text other : List Char) (same : Respaced (c :: text) other) (visible : c ≠ '\n') :
    ∃ rest, other = c :: rest ∧ Respaced text rest := by
  cases same with
  | cons _ _ rest behind => exact ⟨rest, rfl, behind⟩
  | feed => contradiction

theorem respaced_nil_iff (text other : List Char) (same : Respaced text other) : other = [] ↔ text = [] := by
  cases same <;> simp

theorem respaced_front (front text other : List Char) (same : Respaced (front ++ text) other) (no_feed : '\n' ∉ front) :
    ∃ rest, other = front ++ rest ∧ Respaced text rest := by
  induction front generalizing other with
  | nil => exact ⟨other, rfl, same⟩
  | cons c front ih =>
      simp only [List.mem_cons, not_or] at no_feed
      obtain ⟨next, rfl, behind⟩ := respaced_cons c _ other same (Ne.symm no_feed.1)
      obtain ⟨rest, rfl, last⟩ := ih next behind no_feed.2
      exact ⟨rest, rfl, last⟩

theorem respaced_cons_back (c : Char) (text rest : List Char) (same : Respaced text (c :: rest)) (visible : 32 ≤ c.toNat) :
    ∃ before, text = c :: before ∧ Respaced before rest := by
  generalize long : c :: rest = other at same
  cases same with
  | nil => cases long
  | cons d before other behind =>
      obtain ⟨rfl, rfl⟩ := List.cons.inj long
      exact ⟨before, rfl, behind⟩
  | feed first gap before other breaks =>
      obtain ⟨rfl, -⟩ := List.cons.inj long
      exact absurd breaks.control (Nat.not_lt.mpr visible)

theorem respaced_back (front text rest : List Char) (same : Respaced text (front ++ rest))
    (no_control : ∀ c ∈ front, 32 ≤ c.toNat) : ∃ before, text = front ++ before ∧ Respaced before rest := by
  induction front generalizing text with
  | nil => exact ⟨text, rfl, same⟩
  | cons c front ih =>
      obtain ⟨visible, others⟩ := List.forall_mem_cons.mp no_control
      obtain ⟨later, rfl, behind⟩ := respaced_cons_back c text _ same visible
      obtain ⟨before, rfl, last⟩ := ih later behind others
      exact ⟨before, rfl, last⟩

theorem respaced_run (passes : Char → Bool) (text other : List Char) (same : Respaced text other)
    (stops : ∀ c, isSpace c = true → passes c = false) :
    other.takeWhile passes = text.takeWhile passes ∧ Respaced (text.dropWhile passes) (other.dropWhile passes) := by
  induction same with
  | nil => exact ⟨rfl, .nil⟩
  | cons c text other behind ih =>
      by_cases passed : passes c = true
      · simp only [List.takeWhile_cons, List.dropWhile_cons, if_pos passed]
        exact ⟨congrArg (c :: ·) ih.1, ih.2⟩
      · rw [List.takeWhile_cons_of_neg passed, List.takeWhile_cons_of_neg passed,
          List.dropWhile_cons_of_neg passed, List.dropWhile_cons_of_neg passed]
        exact ⟨rfl, .cons c text other behind⟩
  | feed first gap text other breaks spaces behind ih =>
      have here := stops '\n' rfl
      have there := stops first breaks.space
      rw [List.takeWhile_cons_of_neg (by simp [there]), List.takeWhile_cons_of_neg (by simp [here]),
        List.dropWhile_cons_of_neg (by simp [here]), List.dropWhile_cons_of_neg (by simp [there])]
      exact ⟨rfl, .feed first gap text other breaks spaces behind⟩

theorem respaced_skipped (text other : List Char) (same : Respaced text other) :
    Respaced (skipSpaces text) (skipSpaces other) := by
  unfold skipSpaces
  induction same with
  | nil => exact .nil
  | cons c text other behind ih =>
      by_cases space : isSpace c = true
      · simpa only [List.dropWhile_cons, if_pos space] using ih
      · simp only [List.dropWhile_cons, if_neg space]
        exact .cons c text other behind
  | feed first gap text other breaks spaces behind ih =>
      rw [List.dropWhile_cons_of_pos (by rfl), List.dropWhile_cons_of_pos breaks.space,
        List.dropWhile_append_of_pos spaces]
      exact ih

theorem respaced_digits (text other : List Char) (same : Respaced text other) :
    other.takeWhile Char.isDigit = text.takeWhile Char.isDigit ∧
      Respaced (text.dropWhile Char.isDigit) (other.dropWhile Char.isDigit) := by
  refine respaced_run Char.isDigit text other same fun c space => ?_
  simp only [isSpace, Bool.or_eq_true, decide_eq_true_eq] at space
  rcases space with ((rfl | rfl) | rfl) | rfl <;> rfl

/-! ## Fronts -/

inductive Alike {α : Type} : Except Fault (α × List Char) → Except Fault (α × List Char) → Prop where
  | ok (value : α) (rest other : List Char) (behind : Respaced rest other) : Alike (.ok (value, rest)) (.ok (value, other))
  | error (fault : Fault) : Alike (.error fault) (.error fault)

theorem alike_bind {α β : Type} (taken also : Except Fault (α × List Char)) (next more : α × List Char → Except Fault (β × List Char))
    (same : Alike taken also)
    (onward : ∀ value rest other, taken = .ok (value, rest) → Respaced rest other → Alike (next (value, rest)) (more (value, other))) :
    Alike (taken.bind next) (also.bind more) := by
  cases same with
  | ok value rest other behind => exact onward value rest other rfl behind
  | error fault => exact .error fault

theorem alike_map {α β : Type} (give : α → β) (taken also : Except Fault (α × List Char)) (same : Alike taken also) :
    Alike (taken.map fun front => (give front.1, front.2)) (also.map fun front => (give front.1, front.2)) := by
  cases same with
  | ok value rest other behind => exact .ok (give value) rest other behind
  | error fault => exact .error fault

def orMalformed {α : Type} : Option (α × List Char) → Except Fault (α × List Char)
  | some taken => .ok taken
  | none => .error .malformed

/-! ## Strings and words -/

theorem hex_value_visible (c : Char) (hex : Text.hexValue? c ≠ none) : 32 ≤ c.toNat := by
  unfold Text.hexValue? at hex
  simp only [Char.isDigit, Bool.and_eq_true, decide_eq_true_eq, UInt32.le_iff_toNat_le, Char.le_def] at hex
  split at hex
  · rename_i digit
    exact Nat.le_trans (by decide) digit.1
  · split at hex
    · rename_i letter
      exact Nat.le_trans (by decide) letter.1
    · split at hex
      · rename_i letter
        exact Nat.le_trans (by decide) letter.1
      · exact absurd rfl hex

theorem unit_digits (a b c d : Char) (unit : Nat) (spelled : unit? a b c d = some unit) :
    ∀ digit ∈ [a, b, c, d], Text.hexValue? digit ≠ none := by
  have some_value (value : Nat) (digit : Char) (next : Nat)
      (step : (Text.hexValue? digit).map (value * 16 + ·) = some next) : Text.hexValue? digit ≠ none := by
    intro none
    rw [none] at step
    cases step
  simp only [unit?, Text.hexNumber?, List.foldlM_cons, List.foldlM_nil, Option.bind_eq_bind, Option.bind_eq_some_iff]
    at spelled
  obtain ⟨first, a_value, second, b_value, third, c_value, fourth, d_value, -⟩ := spelled
  simp only [List.forall_mem_cons, List.not_mem_nil, false_implies, implies_true, and_true]
  exact ⟨some_value _ a _ a_value, some_value _ b _ b_value, some_value _ c _ c_value, some_value _ d _ d_value⟩

theorem escape_visible (c plain : Char) (escape : escape? c = some plain) : 32 ≤ c.toNat := by
  unfold escape? at escape
  split at escape <;> first | decide | cases escape

theorem units_front (text after : List Char) (units : List Nat) (taken : takeUnits? text = some (units, after)) :
    ∃ front, text = front ++ after ∧ (∀ c ∈ front, 32 ≤ c.toNat) ∧
      ∀ rest, takeUnits? (front ++ rest) = some (units, rest) := by
  fun_induction takeUnits? text generalizing units after with
  | case1 => cases taken
  | case2 rest =>
      cases taken
      exact ⟨['"'], rfl, by decide, fun rest => rfl⟩
  | case3 a b c d rest unit units after found spelled ih =>
      cases taken
      obtain ⟨front, rfl, visible, again⟩ := ih _ _ found
      refine ⟨'\\' :: 'u' :: ([a, b, c, d] ++ front), rfl, ?_, fun rest => ?_⟩
      · have digits : ∀ digit ∈ [a, b, c, d], 32 ≤ digit.toNat :=
          fun digit member => hex_value_visible digit (unit_digits a b c d unit spelled digit member)
        exact List.forall_mem_cons.mpr ⟨by decide, List.forall_mem_cons.mpr ⟨by decide,
          List.forall_mem_append.mpr ⟨digits, visible⟩⟩⟩
      · simp only [List.cons_append, List.nil_append, takeUnits?, spelled, again]
  | case4 => cases taken
  | case5 c rest long plain units after found escape ih =>
      cases taken
      obtain ⟨front, rfl, visible, again⟩ := ih _ _ found
      have short : c ≠ 'u' := by
        rintro rfl
        cases escape
      refine ⟨'\\' :: c :: front, rfl, ?_, fun rest => ?_⟩
      · exact List.forall_mem_cons.mpr ⟨by decide, List.forall_mem_cons.mpr ⟨escape_visible c plain escape, visible⟩⟩
      · simp [takeUnits?, short, escape, again]
  | case6 => cases taken
  | case7 => cases taken
  | case8 c rest no_quote long other visible units after found ih =>
      cases taken
      obtain ⟨front, rfl, others, again⟩ := ih _ _ found
      have plain : c ≠ '\\' := by
        rintro rfl
        cases front with
        | nil => 
            cases behind : after with
            | nil =>
                rw [behind] at found
                cases found
            | cons d after => exact other d after rfl behind
        | cons d front => exact other d _ rfl rfl
      refine ⟨c :: front, rfl, ?_, fun rest => ?_⟩
      · exact List.forall_mem_cons.mpr ⟨Nat.not_lt.mp visible, others⟩
      · simp [takeUnits?, plain, visible, again]
  | case9 => cases taken

theorem visible_no_feed (front : List Char) (visible : ∀ c ∈ front, 32 ≤ c.toNat) : '\n' ∉ front := by
  intro member
  exact absurd (visible '\n' member) (by decide)

theorem alike_front {α : Type} (take : List Char → Option (α × List Char))
    (front : ∀ text value after, take text = some (value, after) → ∃ before, text = before ++ after ∧
      (∀ c ∈ before, 32 ≤ c.toNat) ∧ ∀ rest, take (before ++ rest) = some (value, rest))
    (text other : List Char) (same : Respaced text other) : Alike (orMalformed (take text)) (orMalformed (take other)) := by
  cases taken : take text with
  | some found =>
      obtain ⟨before, split, visible, again⟩ := front text found.1 found.2 taken
      rw [split] at same
      obtain ⟨rest, rfl, behind⟩ := respaced_front before _ other same (visible_no_feed before visible)
      rw [again rest]
      exact .ok found.1 found.2 rest behind
  | none =>
      cases also : take other with
      | some found =>
          obtain ⟨before, split, visible, again⟩ := front other found.1 found.2 also
          rw [split] at same
          obtain ⟨rest, rfl, -⟩ := respaced_back before text _ same visible
          rw [again rest] at taken
          cases taken
      | none => exact .error .malformed

theorem string_front (text : List Char) : frontOf (takeString text) =
    (orMalformed (takeUnits? text)).map fun front => (String.ofList (joinUnits front.1), front.2) := by
  unfold takeString
  split
  · rename_i units after taken
    simp only [taken]
    rfl
  · rename_i taken
    simp only [taken]
    rfl

theorem string_alike (text other : List Char) (same : Respaced text other) :
    Alike (frontOf (takeString text)) (frontOf (takeString other)) := by
  rw [string_front, string_front]
  exact alike_map (fun units => String.ofList (joinUnits units)) _ _
    (alike_front takeUnits? (fun text value after taken => units_front text after value taken) text other same)

theorem after_word (word text rest : List Char) : afterWord? word text = some rest ↔ text = word ++ rest := by
  fun_induction afterWord? word text with
  | case1 text => simp
  | case2 => simp
  | case3 word c text ih => simp [ih]
  | case4 w word c text differ => simp [Ne.symm differ]

theorem words_visible : ∀ entry ∈ words, ∀ c ∈ entry.1.toList, 32 ≤ c.toNat := by
  decide

theorem words_alike (choices : List (String × Value)) (text other : List Char) (same : Respaced text other)
    (visible : ∀ entry ∈ choices, ∀ c ∈ entry.1.toList, 32 ≤ c.toNat) :
    Alike (orMalformed (choices.findSome? fun (word, value) => (afterWord? word.toList text).map (value, ·)))
      (orMalformed (choices.findSome? fun (word, value) => (afterWord? word.toList other).map (value, ·))) := by
  induction choices with
  | nil => exact .error .malformed
  | cons entry choices ih =>
      obtain ⟨word, value⟩ := entry
      obtain ⟨here, others⟩ := List.forall_mem_cons.mp visible
      rw [List.findSome?_cons, List.findSome?_cons]
      simp only at here ⊢
      cases taken : afterWord? word.toList text with
      | some rest =>
          rw [(after_word _ _ _).mp taken] at same
          obtain ⟨after, rfl, behind⟩ := respaced_front _ rest other same (visible_no_feed _ here)
          rw [(after_word _ _ after).mpr rfl]
          exact .ok value rest after behind
      | none =>
          cases also : afterWord? word.toList other with
          | some rest =>
              rw [(after_word _ _ _).mp also] at same
              obtain ⟨before, rfl, -⟩ := respaced_back _ text rest same here
              rw [(after_word _ _ before).mpr rfl] at taken
              cases taken
          | none => exact ih others

theorem word_alike (text other : List Char) (same : Respaced text other) :
    Alike (orMalformed (takeWord? text)) (orMalformed (takeWord? other)) :=
  words_alike words text other same words_visible

/-! ## Numbers -/

theorem space_plain (c : Char) (space : isSpace c = true) :
    c.isDigit = false ∧ c ≠ '.' ∧ c ≠ 'e' ∧ c ≠ 'E' ∧ c ≠ '-' ∧ c ≠ '+' := by
  simp only [isSpace, Bool.or_eq_true, decide_eq_true_eq] at space
  rcases space with ((rfl | rfl) | rfl) | rfl <;> decide

theorem whole_space (c : Char) (rest : List Char) (space : isSpace c = true) : takeWhole? (c :: rest) = none := by
  have digit := (space_plain c space).1
  unfold takeWhole?
  split
  · rename_i same
    cases same
    cases digit
  · rename_i same
    obtain ⟨rfl, -⟩ := List.cons.inj same
    rw [if_neg (by simp [digit])]
  · rfl

theorem whole_alike (text other : List Char) (same : Respaced text other) :
    Alike (orMalformed (takeWhole? text)) (orMalformed (takeWhole? other)) := by
  cases same with
  | nil => exact .error .malformed
  | cons c text other behind =>
      by_cases zero : c = '0'
      · subst zero
        exact .ok ['0'] text other behind
      · simp only [takeWhole?]
        split
        · obtain ⟨digits, rest⟩ := respaced_digits text other behind
          rw [digits]
          exact .ok _ _ _ rest
        · exact .error .malformed
  | feed first gap text other breaks spaces behind =>
      rw [whole_space '\n' text rfl, whole_space first _ breaks.space]
      exact .error .malformed

theorem fraction_other (c : Char) (rest : List Char) (differs : c ≠ '.') : takeFraction (c :: rest) = ([], c :: rest) := by
  unfold takeFraction
  split
  · rename_i same
    exact absurd (List.cons.inj same).1 differs
  · rfl

theorem fraction_alike (text other : List Char) (same : Respaced text other) :
    (takeFraction other).1 = (takeFraction text).1 ∧ Respaced (takeFraction text).2 (takeFraction other).2 := by
  cases same with
  | nil => exact ⟨rfl, .nil⟩
  | cons c text other behind =>
      by_cases point : c = '.'
      · subst point
        obtain ⟨digits, rest⟩ := respaced_digits text other behind
        simp only [takeFraction, digits]
        split
        · exact ⟨rfl, .cons '.' text other behind⟩
        · exact ⟨rfl, rest⟩
      · rw [fraction_other c text point, fraction_other c other point]
        exact ⟨rfl, .cons c text other behind⟩
  | feed first gap text other breaks spaces behind =>
      rw [fraction_other '\n' text (by decide), fraction_other first _ (space_plain first breaks.space).2.1]
      exact ⟨rfl, .feed first gap text other breaks spaces behind⟩

theorem sign_other (c : Char) (rest : List Char) (minus : c ≠ '-') (plus : c ≠ '+') :
    Numeral.takeSign (c :: rest) = (false, c :: rest) := by
  unfold Numeral.takeSign
  split
  · rename_i same
    exact absurd (List.cons.inj same).1 minus
  · rename_i same
    exact absurd (List.cons.inj same).1 plus
  · rfl

theorem sign_alike (text other : List Char) (same : Respaced text other) :
    (Numeral.takeSign other).1 = (Numeral.takeSign text).1 ∧
      Respaced (Numeral.takeSign text).2 (Numeral.takeSign other).2 := by
  cases same with
  | nil => exact ⟨rfl, .nil⟩
  | cons c text other behind =>
      by_cases minus : c = '-'
      · subst minus
        exact ⟨rfl, behind⟩
      · by_cases plus : c = '+'
        · subst plus
          exact ⟨rfl, behind⟩
        · rw [sign_other c text minus plus, sign_other c other minus plus]
          exact ⟨rfl, .cons c text other behind⟩
  | feed first gap text other breaks spaces behind =>
      obtain ⟨-, -, -, -, minus, plus⟩ := space_plain first breaks.space
      rw [sign_other '\n' text (by decide) (by decide), sign_other first _ minus plus]
      exact ⟨rfl, .feed first gap text other breaks spaces behind⟩

theorem exponent_other (c : Char) (rest : List Char) (small : c ≠ 'e') (large : c ≠ 'E') :
    takeExponent (c :: rest) = (none, c :: rest) := by
  simp [takeExponent, small, large]

theorem exponent_alike (text other : List Char) (same : Respaced text other) :
    (takeExponent other).1 = (takeExponent text).1 ∧ Respaced (takeExponent text).2 (takeExponent other).2 := by
  cases same with
  | nil => exact ⟨rfl, .nil⟩
  | cons c text other behind =>
      by_cases mark : c = 'e' ∨ c = 'E'
      · obtain ⟨sign, body⟩ := sign_alike text other behind
        obtain ⟨digits, rest⟩ := respaced_digits _ _ body
        have marked : (decide (c = 'e') || decide (c = 'E')) = true := by simpa using mark
        simp only [takeExponent, marked, if_true, sign, digits]
        split
        · exact ⟨rfl, .cons c text other behind⟩
        · exact ⟨rfl, rest⟩
      · simp only [not_or] at mark
        rw [exponent_other c text mark.1 mark.2, exponent_other c other mark.1 mark.2]
        exact ⟨rfl, .cons c text other behind⟩
  | feed first gap text other breaks spaces behind =>
      obtain ⟨-, -, small, large, -, -⟩ := space_plain first breaks.space
      rw [exponent_other '\n' text (by decide) (by decide), exponent_other first _ small large]
      exact ⟨rfl, .feed first gap text other breaks spaces behind⟩

def numberOf (negative : Bool) (whole fraction : List Char) (exponent : Option Int) : Except Fault Value :=
  match fraction, exponent with
  | [], none =>
      match Numeral.boundedValue? negative whole with
      | some i => .ok (.int i)
      | none => .error .integerTooLong
  | digits, power => .ok (.float (Numeral.Decimal.value ⟨negative, whole, digits, power.getD 0⟩))

theorem number_front (negative : Bool) (text : List Char) : frontOf (takeNumber negative text) =
    (orMalformed (takeWhole? text)).bind fun taken =>
      let fraction := takeFraction taken.2
      let exponent := takeExponent fraction.2
      (numberOf negative taken.1 fraction.1 exponent.1).map (·, exponent.2) := by
  unfold takeNumber
  split
  · rename_i taken
    simp only [taken]
    rfl
  · rename_i whole rest taken
    simp only [taken, orMalformed, Except.bind, numberOf]
    cases fraction : (takeFraction rest).1 with
    | cons digit digits => simp [frontOf, Except.map]
    | nil => 
      cases exponent : (takeExponent (takeFraction rest).2).1 with
      | some power => simp [frontOf, Except.map]
      | none => 
          simp
          cases Numeral.boundedValue? negative whole <;> rfl

theorem number_alike (negative : Bool) (text other : List Char) (same : Respaced text other) :
    Alike (frontOf (takeNumber negative text)) (frontOf (takeNumber negative other)) := by
  rw [number_front, number_front]
  refine alike_bind _ _ _ _ (whole_alike text other same) fun whole rest after _ behind => ?_
  obtain ⟨digits, fraction⟩ := fraction_alike rest after behind
  obtain ⟨power, exponent⟩ := exponent_alike _ _ fraction
  simp only [digits, power]
  cases numberOf negative whole (takeFraction rest).1 (takeExponent (takeFraction rest).2).1 with
  | ok value => exact .ok value _ _ exponent
  | error fault => exact .error fault

theorem signed_minus (rest : List Char) : frontOf (takeSigned ('-' :: rest)) = frontOf (takeNumber true rest) := by
  simp only [takeSigned]
  cases takeNumber true rest <;> rfl

theorem signed_plain (text : List Char) (plain : ∀ rest, text ≠ '-' :: rest) : takeSigned text = takeNumber false text := by
  unfold takeSigned
  split
  · rename_i rest
    exact absurd rfl (plain rest)
  · rfl

theorem signed_alike (text other : List Char) (same : Respaced text other) :
    Alike (frontOf (takeSigned text)) (frontOf (takeSigned other)) := by
  by_cases minus : ∃ rest, text = '-' :: rest
  · obtain ⟨rest, rfl⟩ := minus
    obtain ⟨after, rfl, behind⟩ := respaced_cons '-' rest other same (by decide)
    rw [signed_minus, signed_minus]
    exact number_alike true rest after behind
  · have plain : ∀ rest, text ≠ '-' :: rest := fun rest found => minus ⟨rest, found⟩
    have still : ∀ rest, other ≠ '-' :: rest := by
      rintro rest rfl
      obtain ⟨before, rfl, -⟩ := respaced_cons_back '-' text rest same (by decide)
      exact plain before rfl
    rw [signed_plain text plain, signed_plain other still]
    exact number_alike false text other same

theorem simple_word (text after : List Char) (value : Value) (taken : takeWord? text = some (value, after)) :
    frontOf (takeSimple text) = .ok (value, after) := by
  unfold takeSimple
  split
  · rename_i found
    rw [taken] at found
    cases found
    rfl
  · rename_i found
    rw [taken] at found
    cases found

theorem simple_other (text : List Char) (missing : takeWord? text = none) : takeSimple text = takeSigned text := by
  unfold takeSimple
  split
  · rename_i found
    rw [missing] at found
    cases found
  · rfl

theorem simple_alike (text other : List Char) (same : Respaced text other) :
    Alike (frontOf (takeSimple text)) (frontOf (takeSimple other)) := by
  have word := word_alike text other same
  cases taken : takeWord? text with
  | some front =>
      cases also : takeWord? other with
      | some another =>
          rw [taken, also] at word
          rw [simple_word text front.2 front.1 taken, simple_word other another.2 another.1 also]
          exact word
      | none =>
          rw [taken, also] at word
          cases word
  | none =>
      cases also : takeWord? other with
      | some another =>
          rw [taken, also] at word
          cases word
      | none =>
          rw [simple_other text taken, simple_other other also]
          exact signed_alike text other same

/-! ## Values -/

def valueFront (levels : Levels) (text : List Char) : Except Fault (Value × List Char) :=
  frontOf (takeValue levels text)

def itemsFront (levels : Levels) (text : List Char) : Except Fault (List Value × List Char) :=
  frontOf (takeItems levels text)

def membersFront (levels : Levels) (entries : Entries) (text : List Char) : Except Fault (Entries × List Char) :=
  frontOf (takeMembers levels entries text)

theorem value_string (levels : Levels) (rest : List Char) :
    valueFront levels ('"' :: rest) = (frontOf (takeString rest)).map fun taken => (.str taken.1, taken.2) := by
  unfold valueFront
  rw [takeValue]
  cases takeString rest <;> rfl

theorem value_list (levels : Levels) (rest : List Char) : valueFront levels ('[' :: rest) =
    levels.inside.bind fun inside =>
      match skipSpaces rest with
      | ']' :: after => .ok (.list [], after)
      | _ => (itemsFront inside rest).map fun taken => (.list taken.1, taken.2) := by
  unfold valueFront itemsFront
  rw [takeValue]
  cases levels.inside with
  | error fault => rfl
  | ok inside =>
      dsimp only [Except.bind]
      split
      · rename_i after opened
        simp only [opened]
        rfl
      · cases takeItems inside rest <;> simp [frontOf, Except.map]

theorem value_mapping (levels : Levels) (rest : List Char) : valueFront levels ('\x7b' :: rest) =
    levels.inside.bind fun inside =>
      match skipSpaces rest with
      | '\x7d' :: after => .ok (.map [], after)
      | _ => (membersFront inside [] rest).map fun taken => (.map taken.1, taken.2) := by
  unfold valueFront membersFront
  rw [takeValue]
  cases levels.inside with
  | error fault => rfl
  | ok inside =>
      dsimp only [Except.bind]
      split
      · rename_i after opened
        simp only [opened]
        rfl
      · cases takeMembers inside [] rest <;> simp [frontOf, Except.map]

theorem value_simple (levels : Levels) (text : List Char) (no_string : ∀ rest, text ≠ '"' :: rest) (no_list : ∀ rest, text ≠ '[' :: rest)
    (no_mapping : ∀ rest, text ≠ '\x7b' :: rest) : valueFront levels text = frontOf (takeSimple text) := by
  unfold valueFront
  rw [takeValue.eq_def]
  split
  · rename_i rest
    exact absurd rfl (no_string rest)
  · rename_i rest
    exact absurd rfl (no_list rest)
  · rename_i rest
    exact absurd rfl (no_mapping rest)
  · rfl

theorem items_front (levels : Levels) (text : List Char) : itemsFront levels text =
    (valueFront levels (skipSpaces text)).bind fun taken =>
      match skipSpaces taken.2 with
      | ']' :: rest => .ok ([taken.1], rest)
      | ',' :: rest => (itemsFront levels rest).map fun others => (taken.1 :: others.1, others.2)
      | _ => .error .malformed := by
  unfold itemsFront valueFront
  rw [takeItems]
  cases takeValue levels (skipSpaces text) with
  | error fault => rfl
  | ok front =>
      obtain ⟨item, after, shorter⟩ := front
      simp only [front_of_ok, Except.bind]
      split
      · rename_i rest next
        simp only [next, front_of_ok]
      · rename_i rest next
        simp only [next]
        cases takeItems levels rest <;> rfl
      · simp

def behindColon (levels : Levels) (entries : Entries) (key : String) (text : List Char) : Except Fault (Entries × List Char) :=
  (valueFront levels (skipSpaces text)).bind fun taken =>
    match skipSpaces taken.2 with
    | '\x7d' :: rest => .ok (entries.put (.str key) taken.1, rest)
    | ',' :: rest => membersFront levels (entries.put (.str key) taken.1) rest
    | _ => .error .malformed

theorem members_front (levels : Levels) (entries : Entries) (text : List Char) : membersFront levels entries text =
    match skipSpaces text with
    | '"' :: rest => (frontOf (takeString rest)).bind fun taken =>
        match skipSpaces taken.2 with
        | ':' :: after => behindColon levels entries taken.1 after
        | _ => .error .malformed
    | _ => .error .malformed := by
  unfold membersFront behindColon valueFront
  rw [takeMembers]
  split
  · rename_i rest opened
    simp only [opened]
    cases takeString rest with
    | error fault => rfl
    | ok front =>
        obtain ⟨key, afterKey, shorter⟩ := front
        simp only [front_of_ok, Except.bind]
        split
        · rename_i after colon
          simp only [colon]
          cases takeValue levels (skipSpaces after) with
          | error fault => rfl
          | ok front =>
              obtain ⟨value, afterValue, less⟩ := front
              simp only [front_of_ok]
              split
              · rename_i final next
                simp only [next, front_of_ok]
              · rename_i more next
                simp only [next]
                unfold membersFront
                cases takeMembers levels (entries.put (.str key) value) more <;> rfl
              · simp
        · simp
  · simp

theorem skip_shorter (text rest : List Char) (c : Char) (opened : skipSpaces text = c :: rest) : rest.length < text.length := by
  have bound := length_skipSpaces_le text
  rw [opened, List.length_cons] at bound
  exact bound

theorem front_shorter {α : Type} (text rest : List Char) (value : α) (taken : Except Fault (α × Rest text))
    (found : frontOf taken = .ok (value, rest)) : rest.length < text.length := by
  cases taken with
  | error fault => cases found
  | ok front =>
      cases found
      exact front.2.2

theorem respaced_head (c : Char) (text other : List Char) (same : Respaced text other) (visible : 32 ≤ c.toNat) :
    (∃ rest after, text = c :: rest ∧ other = c :: after ∧ Respaced rest after) ∨
      (∀ rest, text ≠ c :: rest) ∧ ∀ rest, other ≠ c :: rest := by
  by_cases starts : ∃ rest, text = c :: rest
  · obtain ⟨rest, rfl⟩ := starts
    have no_feed : c ≠ '\n' := by
      rintro rfl
      exact absurd visible (by decide)
    obtain ⟨after, rfl, behind⟩ := respaced_cons c rest other same no_feed
    exact .inl ⟨rest, after, rfl, rfl, behind⟩
  · refine .inr ⟨fun rest found => starts ⟨rest, found⟩, ?_⟩
    rintro after rfl
    obtain ⟨rest, rfl, -⟩ := respaced_cons_back c text after same visible
    exact starts ⟨rest, rfl⟩

mutual

theorem value_alike (levels : Levels) (text other : List Char) (same : Respaced text other) : Alike (valueFront levels text) (valueFront levels other) := by
  rcases respaced_head '"' text other same (by decide) with ⟨rest, after, rfl, rfl, behind⟩ | ⟨no_quote, still_no_quote⟩
  · rw [value_string, value_string]
    exact alike_map Value.str _ _ (string_alike rest after behind)
  · rcases respaced_head '[' text other same (by decide) with ⟨rest, after, rfl, rfl, behind⟩ | ⟨no_list, still_no_list⟩
    · rw [value_list, value_list]
      cases levels.inside with
      | error fault => exact .error fault
      | ok inside =>
      have items := alike_map Value.list _ _ (items_alike inside rest after behind)
      dsimp only [Except.bind]
      rcases respaced_head ']' _ _ (respaced_skipped rest after behind) (by decide) with
        ⟨final, last, closed, also, ended⟩ | ⟨more, still_more⟩
      · simp only [closed, also]
        exact .ok _ final last ended
      · split
        · rename_i closed
          exact absurd closed (more _)
        · exact items
    · rcases respaced_head '\x7b' text other same (by decide) with ⟨rest, after, rfl, rfl, behind⟩ | ⟨no_mapping, still_no_mapping⟩
      · rw [value_mapping, value_mapping]
        cases levels.inside with
        | error fault => exact .error fault
        | ok inside =>
        have members := alike_map Value.map _ _ (members_alike inside [] rest after behind)
        dsimp only [Except.bind]
        rcases respaced_head '\x7d' _ _ (respaced_skipped rest after behind) (by decide) with
          ⟨final, last, closed, also, ended⟩ | ⟨more, still_more⟩
        · simp only [closed, also]
          exact .ok _ final last ended
        · split
          · rename_i closed
            exact absurd closed (more _)
          · exact members
      · rw [value_simple levels text no_quote no_list no_mapping, value_simple levels other still_no_quote still_no_list still_no_mapping]
        exact simple_alike text other same
termination_by 2 * text.length

theorem items_alike (levels : Levels) (text other : List Char) (same : Respaced text other) : Alike (itemsFront levels text) (itemsFront levels other) := by
  have skipped := length_skipSpaces_le text
  rw [items_front, items_front]
  refine alike_bind _ _ _ _ (value_alike levels (skipSpaces text) (skipSpaces other) (respaced_skipped text other same))
    fun item rest after found behind => ?_
  have shorter := front_shorter _ rest item _ found
  rcases respaced_head ']' _ _ (respaced_skipped rest after behind) (by decide) with
    ⟨final, last, closed, also, ended⟩ | ⟨more, still_more⟩
  · simp only [closed, also]
    exact .ok [item] final last ended
  · rcases respaced_head ',' _ _ (respaced_skipped rest after behind) (by decide) with
      ⟨next, further, comma, also, onward⟩ | ⟨no_comma, still_no_comma⟩
    · have less := skip_shorter rest next ',' comma
      simp only [comma, also]
      exact alike_map (item :: ·) _ _ (items_alike levels next further onward)
    · split
      · exact absurd ‹_› (more _)
      · exact absurd ‹_› (no_comma _)
      · exact .error .malformed
termination_by 2 * text.length + 1

theorem members_alike (levels : Levels) (entries : Entries) (text other : List Char) (same : Respaced text other) :
    Alike (membersFront levels entries text) (membersFront levels entries other) := by
  rw [members_front, members_front]
  rcases respaced_head '"' _ _ (respaced_skipped text other same) (by decide) with
    ⟨inside, another, opened, also, quoted⟩ | ⟨no_quote, still_no_quote⟩
  · have first := skip_shorter text inside '"' opened
    simp only [opened, also]
    refine alike_bind _ _ _ _ (string_alike inside another quoted) fun key rest after found behind => ?_
    have second := front_shorter inside rest key _ found
    rcases respaced_head ':' _ _ (respaced_skipped rest after behind) (by decide) with
      ⟨value, further, colon, also, onward⟩ | ⟨no_colon, still_no_colon⟩
    · have third := skip_shorter rest value ':' colon
      have fourth := length_skipSpaces_le value
      simp only [colon, also]
      unfold behindColon
      refine alike_bind _ _ _ _ (value_alike levels (skipSpaces value) (skipSpaces further) (respaced_skipped value further onward))
        fun held left remain found behind => ?_
      have fifth := front_shorter _ left held _ found
      rcases respaced_head '\x7d' _ _ (respaced_skipped left remain behind) (by decide) with
        ⟨final, last, closed, also, ended⟩ | ⟨more, still_more⟩
      · simp only [closed, also]
        exact .ok _ final last ended
      · rcases respaced_head ',' _ _ (respaced_skipped left remain behind) (by decide) with
          ⟨next, others, comma, also, onward⟩ | ⟨no_comma, still_no_comma⟩
        · have sixth := skip_shorter left next ',' comma
          simp only [comma, also]
          exact members_alike levels _ next others onward
        · split
          · exact absurd ‹_› (more _)
          · exact absurd ‹_› (no_comma _)
          · exact .error .malformed
    · split
      · exact absurd ‹_› (no_colon _)
      · exact .error .malformed
  · split
    · exact absurd ‹_› (no_quote _)
    · exact .error .malformed
termination_by 2 * text.length + 1

end

/-! ## Whole texts -/

theorem space_blank (c : Char) (space : isSpace c = true) : Text.isBlank c = true := by
  simp only [isSpace, Bool.or_eq_true, decide_eq_true_eq] at space
  rcases space with ((rfl | rfl) | rfl) | rfl <;> rfl

theorem trim_left_respaced (text other : List Char) (same : Respaced text other) :
    Respaced (Text.trimLeft text) (Text.trimLeft other) := by
  unfold Text.trimLeft
  induction same with
  | nil => exact .nil
  | cons c text other behind ih =>
      by_cases blank : Text.isBlank c = true
      · simpa only [List.dropWhile_cons, if_pos blank] using ih
      · simp only [List.dropWhile_cons, if_neg blank]
        exact .cons c text other behind
  | feed first gap text other breaks spaces behind ih =>
      rw [List.dropWhile_cons_of_pos (by rfl), List.dropWhile_cons_of_pos (space_blank first breaks.space),
        List.dropWhile_append_of_pos fun c member => space_blank c (spaces c member)]
      exact ih

theorem trim_right_respaced (text other : List Char) (same : Respaced text other) :
    Respaced (Text.trimRight text) (Text.trimRight other) := by
  induction same with
  | nil => exact .nil
  | cons c text other behind ih =>
      by_cases nothing : Text.trimRight text = []
      · have neither := (respaced_nil_iff _ _ ih).mpr nothing
        unfold Text.trimRight at nothing neither ⊢
        simp only [Text.dropTrailing, nothing, neither]
        split
        · exact .nil
        · exact .cons c [] [] .nil
      · have something := mt (respaced_nil_iff _ _ ih).mp nothing
        have kept : Text.trimRight (c :: text) = c :: Text.trimRight text := Text.trim_right_append [c] text nothing
        have also : Text.trimRight (c :: other) = c :: Text.trimRight other := Text.trim_right_append [c] other something
        rw [kept, also]
        exact .cons c _ _ ih
  | feed first gap text other breaks spaces behind ih =>
      by_cases nothing : Text.trimRight text = []
      · have neither := (respaced_nil_iff _ _ ih).mpr nothing
        have blank : Text.trimRight ('\n' :: text) = [] := by
          unfold Text.trimRight at nothing ⊢
          rw [Text.dropTrailing_eq_nil_iff] at nothing ⊢
          exact nothing
        have still : Text.trimRight (first :: (gap ++ other)) = [] := by
          unfold Text.trimRight at neither ⊢
          rw [Text.dropTrailing_eq_nil_iff] at neither ⊢
          simp only [List.all_cons, List.all_append, space_blank first breaks.space, neither, Bool.true_and, Bool.and_true]
          exact List.all_eq_true.mpr fun c member => space_blank c (spaces c member)
        rw [blank, still]
        exact .nil
      · have something := mt (respaced_nil_iff _ _ ih).mp nothing
        have kept : Text.trimRight ('\n' :: text) = '\n' :: Text.trimRight text := Text.trim_right_append ['\n'] text nothing
        have also : Text.trimRight (first :: (gap ++ other)) = first :: (gap ++ Text.trimRight other) :=
          Text.trim_right_append (first :: gap) other something
        rw [kept, also]
        exact .feed first gap _ _ breaks spaces ih

theorem trim_respaced (text other : List Char) (same : Respaced text other) :
    Respaced (Text.trim text) (Text.trim other) :=
  trim_right_respaced _ _ (trim_left_respaced text other same)

theorem read_front (levels : Levels) (text : List Char) : read levels text =
    (valueFront levels (skipSpaces text)).bind fun taken => if skipSpaces taken.2 = [] then .ok taken.1 else .error .malformed := by
  unfold read valueFront
  cases takeValue levels (skipSpaces text) <;> rfl

theorem read_respaced (levels : Levels) (text other : List Char) (same : Respaced text other) :
    read levels other = read levels text := by
  have value := value_alike levels _ _ (respaced_skipped text other same)
  rw [read_front, read_front]
  generalize valueFront levels (skipSpaces text) = taken at value
  generalize valueFront levels (skipSpaces other) = also at value
  cases value with
  | ok value rest after behind =>
      have ends := respaced_nil_iff _ _ (respaced_skipped rest after behind)
      simp only [Except.bind, ends]
  | error fault => rfl

end PipelineLint.Json
