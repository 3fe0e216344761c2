import PipelineLint.Proofs.NearestNames
import PipelineLint.Validation.Field

set_option autoImplicit false

namespace PipelineLint.Validation

def timeUnits : List String := ["ns", "us", "µs", "ms", "s", "m", "h"]

def IsDigits (text : List Char) : Prop :=
  text ≠ [] ∧ ∀ c ∈ text, Text.isDecimal c = true

inductive IsAmount : List Char → Prop where
  | whole (digits : List Char) : IsDigits digits → IsAmount digits
  | fraction (digits behind : List Char) : IsDigits digits → IsDigits behind → IsAmount (digits ++ '.' :: behind)

inductive IsPeriod : List Char → Prop where
  | mk (amount : List Char) (unit : String) : IsAmount amount → unit ∈ timeUnits → IsPeriod (amount ++ unit.toList)

inductive ArePeriods : List Char → Prop where
  | last (period : List Char) : IsPeriod period → ArePeriods period
  | next (period rest : List Char) : IsPeriod period → ArePeriods rest → ArePeriods (period ++ rest)

theorem amount_start (amount : List Char) (reads : IsAmount amount) :
    ∃ c rest, amount = c :: rest ∧ Text.isDecimal c = true := by
  have digits_start (digits : List Char) (reads : IsDigits digits) :
      ∃ c rest, digits = c :: rest ∧ Text.isDecimal c = true := by
    obtain ⟨some_digit, decimal⟩ := reads
    obtain ⟨c, rest, rfl⟩ := List.exists_cons_of_ne_nil some_digit
    exact ⟨c, rest, rfl, decimal c List.mem_cons_self⟩
  cases reads with
  | whole _ digits => exact digits_start _ digits
  | fraction digits behind whole fraction =>
      obtain ⟨c, rest, rfl, decimal⟩ := digits_start digits whole
      exact ⟨c, rest ++ '.' :: behind, rfl, decimal⟩

theorem unit_taken (text rest : List Char) (taken : afterUnit? text = some rest) :
    ∃ unit ∈ timeUnits, text = unit.toList ++ rest := by
  unfold afterUnit? at taken
  split at taken
  · exact ⟨"ns", by simp [timeUnits], congrArg _ (congrArg _ (Option.some.inj taken))⟩
  · exact ⟨"us", by simp [timeUnits], congrArg _ (congrArg _ (Option.some.inj taken))⟩
  · exact ⟨"µs", by simp [timeUnits], congrArg _ (congrArg _ (Option.some.inj taken))⟩
  · exact ⟨"ms", by simp [timeUnits], congrArg _ (congrArg _ (Option.some.inj taken))⟩
  · exact ⟨"s", by simp [timeUnits], congrArg _ (Option.some.inj taken)⟩
  · exact ⟨"m", by simp [timeUnits], congrArg _ (Option.some.inj taken)⟩
  · exact ⟨"h", by simp [timeUnits], congrArg _ (Option.some.inj taken)⟩
  · cases taken

-- A minute in front of an `s` would be taken for milliseconds.
theorem take_unit (unit : String) (rest : List Char) (known : unit ∈ timeUnits) (apart : rest.head? ≠ some 's') :
    afterUnit? (unit.toList ++ rest) = some rest := by
  simp only [timeUnits, List.mem_cons, List.not_mem_nil, or_false] at known
  rcases known with rfl | rfl | rfl | rfl | rfl | rfl | rfl
  · rfl
  · rfl
  · rfl
  · rfl
  · rfl
  · cases rest with
    | nil => rfl
    | cons c rest =>
        change afterUnit? ('m' :: c :: rest) = some (c :: rest)
        unfold afterUnit?
        split <;> simp_all
  · rfl

theorem digits_taken (text : List Char) (some_digit : (Numeral.takeDigits text).1 ≠ []) :
    IsDigits (Numeral.takeDigits text).1 ∧ text = (Numeral.takeDigits text).1 ++ (Numeral.takeDigits text).2 :=
  ⟨⟨some_digit, fun _ member => List.all_eq_true.mp List.all_takeWhile _ member⟩, List.takeWhile_append_dropWhile.symm⟩

theorem take_digits (digits rest : List Char) (reads : IsDigits digits) (stops : ∀ c ∈ rest.head?, Text.isDecimal c = false) :
    Numeral.takeDigits (digits ++ rest) = (digits, rest) := by
  have none_more : rest.takeWhile Text.isDecimal = [] ∧ rest.dropWhile Text.isDecimal = rest := by
    cases rest with
    | nil => exact ⟨rfl, rfl⟩
    | cons c rest => simp [stops c rfl]
  rw [Numeral.takeDigits, List.takeWhile_append_of_pos reads.2, List.dropWhile_append_of_pos reads.2, none_more.1, none_more.2,
    List.append_nil]

theorem amount_taken (text rest : List Char) (taken : afterAmount? text = some rest) :
    ∃ amount, IsAmount amount ∧ text = amount ++ rest := by
  unfold afterAmount? at taken
  dsimp only at taken
  split at taken
  · cases taken
  · rename_i some_digit
    obtain ⟨digits, whole⟩ := digits_taken text some_digit
    split at taken
    · rename_i behind point
      split at taken
      · cases taken
      · rename_i some_behind
        obtain ⟨more, fraction⟩ := digits_taken behind some_behind
        cases taken
        refine ⟨_, .fraction _ _ digits more, ?_⟩
        rw [List.append_assoc, List.cons_append, ← fraction, ← point, ← whole]
    · cases taken
      exact ⟨_, .whole _ digits, whole⟩

theorem take_amount (amount rest : List Char) (reads : IsAmount amount)
    (stops : ∀ c ∈ rest.head?, Text.isDecimal c = false ∧ c ≠ '.') : afterAmount? (amount ++ rest) = some rest := by
  have no_digit (c : Char) (head : c ∈ rest.head?) : Text.isDecimal c = false := (stops c head).1
  unfold afterAmount?
  cases reads with
  | whole _ digits =>
      rw [take_digits amount rest digits no_digit]
      dsimp only
      rw [if_neg digits.1]
      split
      · exact absurd rfl (stops '.' rfl).2
      · rfl
  | fraction digits behind whole fraction =>
      rw [List.append_assoc, List.cons_append, take_digits digits _ whole (by rintro c ⟨⟩; decide)]
      dsimp only
      rw [if_neg whole.1]
      change (if (Numeral.takeDigits (behind ++ rest)).1 = [] then none else some (Numeral.takeDigits (behind ++ rest)).2) = _
      rw [take_digits behind rest fraction no_digit, if_neg fraction.1]

theorem unit_start (unit : String) (known : unit ∈ timeUnits) :
    ∃ c rest, unit.toList = c :: rest ∧ Text.isDecimal c = false ∧ c ≠ '.' := by
  simp only [timeUnits, List.mem_cons, List.not_mem_nil, or_false] at known
  rcases known with rfl | rfl | rfl | rfl | rfl | rfl | rfl <;> exact ⟨_, _, rfl, by decide, by decide⟩

theorem period_taken (text rest : List Char) (taken : afterPeriod? text = some rest) :
    ∃ period, IsPeriod period ∧ text = period ++ rest := by
  obtain ⟨behind, amount_read, unit_read⟩ := Option.bind_eq_some_iff.mp taken
  obtain ⟨amount, amounts, rfl⟩ := amount_taken text behind amount_read
  obtain ⟨unit, known, rfl⟩ := unit_taken behind rest unit_read
  exact ⟨amount ++ unit.toList, .mk amount unit amounts known, (List.append_assoc _ _ _).symm⟩

theorem take_period (period rest : List Char) (reads : IsPeriod period) (apart : rest.head? ≠ some 's') :
    afterPeriod? (period ++ rest) = some rest := by
  obtain ⟨amount, unit, amounts, known⟩ := reads
  obtain ⟨first, more, letters, no_digit, no_point⟩ := unit_start unit known
  have stops : ∀ c ∈ (unit.toList ++ rest).head?, Text.isDecimal c = false ∧ c ≠ '.' := by
    rw [letters]
    rintro c ⟨⟩
    exact ⟨no_digit, no_point⟩
  rw [afterPeriod?, List.append_assoc, take_amount amount _ amounts stops]
  exact take_unit unit rest known apart

theorem periods_start (periods : List Char) (reads : ArePeriods periods) :
    ∃ c rest, periods = c :: rest ∧ Text.isDecimal c = true := by
  have period_start (period : List Char) (reads : IsPeriod period) :
      ∃ c rest, period = c :: rest ∧ Text.isDecimal c = true := by
    obtain ⟨amount, unit, amounts, -⟩ := reads
    obtain ⟨c, rest, rfl, decimal⟩ := amount_start amount amounts
    exact ⟨c, rest ++ unit.toList, rfl, decimal⟩
  cases reads with
  | last _ period => exact period_start _ period
  | next period rest reads _ =>
      obtain ⟨c, more, rfl, decimal⟩ := period_start period reads
      exact ⟨c, more ++ rest, rfl, decimal⟩

def IsEnding (text : List Char) : Prop :=
  text = [] ∨ text = ['\n']

theorem at_end_iff (rest : List Char) : Numeral.atEnd rest = true ↔ IsEnding rest := by
  simp [Numeral.atEnd, IsEnding]

theorem periods_taken (text : List Char) (taken : isPeriods text = true) :
    ∃ periods ending, ArePeriods periods ∧ IsEnding ending ∧ text = periods ++ ending := by
  fun_induction isPeriods text with
  | case1 text rest read ih =>
      obtain ⟨period, reads, rfl⟩ := period_taken text rest read
      rcases Bool.or_eq_true_iff.mp taken with ends | more
      · exact ⟨period, rest, .last period reads, (at_end_iff rest).mp ends, rfl⟩
      · obtain ⟨periods, ending, others, ends, rfl⟩ := ih more
        exact ⟨period ++ periods, ending, .next period periods reads others, ends, (List.append_assoc _ _ _).symm⟩
  | case2 text none_read => cases taken

theorem take_periods (periods ending : List Char) (reads : ArePeriods periods) (ends : IsEnding ending) :
    isPeriods (periods ++ ending) = true := by
  -- What stands behind a period is the ending or a digit, so no unit is taken for a longer one.
  have step (period rest : List Char) (reads : IsPeriod period) (apart : rest.head? ≠ some 's')
      (goes_on : Numeral.atEnd rest = true ∨ isPeriods rest = true) : isPeriods (period ++ rest) = true := by
    have read := take_period period rest reads apart
    rw [isPeriods]
    split
    · rename_i other taken
      obtain rfl := Option.some.inj (read.symm.trans taken)
      exact Bool.or_eq_true_iff.mpr goes_on
    · rename_i none_read
      exact absurd (read.symm.trans none_read) (Option.some_ne_none rest)
  induction reads with
  | last period reads =>
      refine step period ending reads ?_ (.inl ((at_end_iff ending).mpr ends))
      rcases ends with rfl | rfl <;> decide
  | next period rest reads others ih =>
      rw [List.append_assoc]
      refine step period (rest ++ ending) reads ?_ (.inr ih)
      obtain ⟨c, more, rfl, decimal⟩ := periods_start rest others
      rintro ⟨⟩
      cases decimal

theorem is_duration_iff (text : List Char) :
    isDuration text = true ↔ text = [] ∨ ['$', '\x7b'] <:+: text ∨
      ∃ periods ending, ArePeriods periods ∧ IsEnding ending ∧ text = periods ++ ending := by
  have periods : isPeriods text = true ↔
      ∃ periods ending, ArePeriods periods ∧ IsEnding ending ∧ text = periods ++ ending := by
    refine ⟨periods_taken text, ?_⟩
    rintro ⟨periods, ending, reads, ends, rfl⟩
    exact take_periods periods ending reads ends
  rw [isDuration, isInterpolated, Bool.or_eq_true, Bool.or_eq_true, decide_eq_true_eq, Text.occurs_in_iff, periods, or_assoc]

theorem periods_one_line (periods : List Char) (reads : ArePeriods periods) : '\n' ∉ periods := by
  have digits_one_line (digits : List Char) (reads : IsDigits digits) : '\n' ∉ digits := fun member =>
    absurd (reads.2 '\n' member) (by decide)
  have period_one_line (period : List Char) (reads : IsPeriod period) : '\n' ∉ period := by
    obtain ⟨amount, unit, amounts, known⟩ := reads
    have letters : ∀ unit ∈ timeUnits, '\n' ∉ unit.toList := by simp [timeUnits]
    have number : '\n' ∉ amount := by
      cases amounts with
      | whole _ digits => exact digits_one_line _ digits
      | fraction digits behind whole fraction => simp [digits_one_line digits whole, digits_one_line behind fraction]
    simp [number, letters unit known]
  induction reads with
  | last period reads => exact period_one_line period reads
  | next period rest reads _ ih => simp [period_one_line period reads, ih]

theorem line_feed_behind_duration : isDuration ['1', 's', '\n'] = true ∧ ¬['$', '\x7b'] <:+: ['1', 's', '\n'] ∧
    ¬(['1', 's', '\n'] = [] ∨ ArePeriods ['1', 's', '\n']) := by
  have digit : IsDigits ['1'] := ⟨List.cons_ne_nil _ _, List.forall_mem_singleton.mpr rfl⟩
  have second : IsPeriod ['1', 's'] := .mk ['1'] "s" (.whole ['1'] digit) (by simp [timeUnits])
  have taken : isPeriods ['1', 's', '\n'] = true := take_periods ['1', 's'] ['\n'] (.last _ second) (.inr rfl)
  refine ⟨?_, ?_, ?_⟩
  · rw [isDuration, taken, Bool.or_true]
  · rw [← Text.occurs_in_iff]
    decide
  · rintro (empty | periods)
    · cases empty
    · exact periods_one_line _ periods (by decide)

end PipelineLint.Validation
