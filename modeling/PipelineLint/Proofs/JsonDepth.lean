import PipelineLint.Proofs.JsonSpacing
/-!
How deep the brackets of a JSON text are nested, and what a bound on the depth changes in reading it.
-/

set_option autoImplicit false

namespace PipelineLint.Json

-- Where a character stands: outside of strings, in a string, or behind a backslash in a string.
inductive Site where
  | outside
  | quoted
  | escaped

-- The most brackets and braces that are open at once in a text with `depth` of them open in front of it. Those in strings
-- do not count, and neither does it matter which of them closes which.
def peak : Site → Nat → List Char → Nat
  | _, depth, [] => depth
  | .outside, depth, c :: rest =>
      if c = '"' then peak .quoted depth rest
      else if c = '[' ∨ c = '\x7b' then peak .outside (depth + 1) rest
      else if c = ']' ∨ c = '\x7d' then max depth (peak .outside (depth - 1) rest)
      else peak .outside depth rest
  | .quoted, depth, c :: rest =>
      if c = '"' then peak .outside depth rest
      else if c = '\\' then peak .escaped depth rest
      else peak .quoted depth rest
  | .escaped, depth, _ :: rest => peak .quoted depth rest

def deepest (text : List Char) : Nat :=
  peak .outside 0 text

theorem depth_le_peak (site : Site) (depth : Nat) (text : List Char) : depth ≤ peak site depth text := by
  fun_induction peak site depth text <;> omega

theorem peak_plain (depth : Nat) (c : Char) (rest : List Char) (plain : c ∉ ['"', '[', '\x7b', ']', '\x7d']) :
    peak .outside depth (c :: rest) = peak .outside depth rest := by
  simp only [List.mem_cons, List.not_mem_nil, or_false, not_or] at plain
  simp [peak, plain]

theorem peak_front (depth : Nat) (front rest : List Char) (plain : ∀ c ∈ front, c ∉ ['"', '[', '\x7b', ']', '\x7d']) :
    peak .outside depth (front ++ rest) = peak .outside depth rest := by
  induction front with
  | nil => rfl
  | cons c front ih =>
      obtain ⟨here, others⟩ := List.forall_mem_cons.mp plain
      rw [List.cons_append, peak_plain depth c _ here, ih others]

theorem peak_run (depth : Nat) (passes : Char → Bool) (stops : ∀ c ∈ ['"', '[', '\x7b', ']', '\x7d'], passes c = false)
    (text : List Char) : peak .outside depth text = peak .outside depth (text.dropWhile passes) := by
  have plain : ∀ c ∈ text.takeWhile passes, c ∉ ['"', '[', '\x7b', ']', '\x7d'] := by
    intro c member marked
    have passed := List.all_eq_true.mp List.all_takeWhile c member
    rw [stops c marked] at passed
    cases passed
  have front := peak_front depth _ (text.dropWhile passes) plain
  rwa [List.takeWhile_append_dropWhile] at front

theorem peak_skipped (depth : Nat) (text : List Char) : peak .outside depth text = peak .outside depth (skipSpaces text) :=
  peak_run depth isSpace (by decide) text

theorem peak_digits (depth : Nat) (text : List Char) :
    peak .outside depth text = peak .outside depth (text.dropWhile Char.isDigit) :=
  peak_run depth Char.isDigit (by decide) text

theorem peak_units (depth : Nat) (text after : List Char) (units : List Nat) (taken : takeUnits? text = some (units, after)) :
    peak .quoted depth text = peak .outside depth after := by
  fun_induction takeUnits? text generalizing units after with
  | case1 => cases taken
  | case2 rest =>
      cases taken
      simp [peak]
  | case3 a b c d rest unit units after found spelled ih =>
      cases taken
      have digits := unit_digits a b c d unit spelled
      have plain (digit : Char) (hex : Text.hexValue? digit ≠ none) : digit ≠ '"' ∧ digit ≠ '\\' := by
        constructor <;> (rintro rfl; exact hex rfl)
      simp only [List.forall_mem_cons, List.not_mem_nil, false_implies, implies_true, and_true] at digits
      simp [peak, plain a digits.1, plain b digits.2.1, plain c digits.2.2.1, plain d digits.2.2.2, ih _ _ found]
  | case4 => cases taken
  | case5 c rest long plain units after found escape ih =>
      cases taken
      simp [peak, ih _ _ found]
  | case6 => cases taken
  | case7 => cases taken
  | case8 c rest no_quote long other visible units after found ih =>
      cases taken
      have unescaped : c ≠ '\\' := by
        rintro rfl
        cases rest with
        | nil => cases found
        | cons d rest => exact other d rest rfl rfl
      simp [peak, unescaped, show c ≠ '"' from no_quote, ih _ _ found]
  | case9 => cases taken

theorem peak_word (depth : Nat) (text after : List Char) (value : Value) (taken : takeWord? text = some (value, after)) :
    peak .outside depth text = peak .outside depth after := by
  have plain : ∀ entry ∈ words, ∀ c ∈ entry.1.toList, c ∉ ['"', '[', '\x7b', ']', '\x7d'] := by decide
  obtain ⟨⟨word, held⟩, member, found⟩ := List.exists_of_findSome?_eq_some taken
  obtain ⟨rest, behind, same⟩ := Option.map_eq_some_iff.mp found
  obtain ⟨rfl, rfl⟩ := Prod.mk.inj same
  rw [(after_word _ _ _).mp behind]
  exact peak_front depth _ _ (plain _ member)

theorem peak_whole (depth : Nat) (text digits after : List Char) (taken : takeWhole? text = some (digits, after)) :
    peak .outside depth text = peak .outside depth after := by
  fun_cases takeWhole? text with
  | case1 rest =>
      cases taken
      exact peak_plain depth '0' _ (by decide)
  | case2 c rest no_zero digit =>
      rw [takeWhole?, if_pos digit] at taken
      cases taken
      have run := peak_digits depth (c :: rest)
      rwa [List.dropWhile_cons_of_pos digit] at run
      exact no_zero
  | case3 c rest no_zero other => simp_all [takeWhole?]
  | case4 => cases taken

theorem peak_fraction (depth : Nat) (text : List Char) :
    peak .outside depth text = peak .outside depth (takeFraction text).2 := by
  unfold takeFraction
  split
  · split
    · rfl
    · rw [peak_plain depth '.' _ (by decide), ← peak_digits]
  · rfl

theorem peak_sign (depth : Nat) (text : List Char) :
    peak .outside depth text = peak .outside depth (Numeral.takeSign text).2 := by
  unfold Numeral.takeSign
  split
  · exact peak_plain depth '-' _ (by decide)
  · exact peak_plain depth '+' _ (by decide)
  · rfl

theorem peak_exponent (depth : Nat) (text : List Char) :
    peak .outside depth text = peak .outside depth (takeExponent text).2 := by
  unfold takeExponent
  split
  · rename_i mark rest
    split
    · rename_i marked
      have plain : mark ∉ ['"', '[', '\x7b', ']', '\x7d'] := by
        simp only [Bool.or_eq_true, decide_eq_true_eq] at marked
        rcases marked with rfl | rfl <;> decide
      dsimp only
      split
      · rfl
      · rw [peak_plain depth mark _ plain, peak_sign, ← peak_digits]
    · rfl
  · rfl

theorem peak_number (depth : Nat) (negative : Bool) (text after : List Char) (value : Value)
    (taken : frontOf (takeNumber negative text) = .ok (value, after)) :
    peak .outside depth text = peak .outside depth after := by
  rw [number_front] at taken
  cases whole : takeWhole? text with
  | none =>
      rw [whole] at taken
      cases taken
  | some front =>
      rw [whole] at taken
      simp only [orMalformed, Except.bind] at taken
      rw [peak_whole depth text front.1 front.2 whole, peak_fraction, peak_exponent]
      cases number : numberOf negative front.1 (takeFraction front.2).1 (takeExponent (takeFraction front.2).2).1 with
      | error fault =>
          rw [number] at taken
          cases taken
      | ok held =>
          rw [number] at taken
          cases taken
          rfl

theorem number_bearable (negative : Bool) (text : List Char) : frontOf (takeNumber negative text) ≠ .error .tooDeep := by
  rw [number_front]
  cases takeWhole? text with
  | none => simp [orMalformed, Except.bind]
  | some front =>
      simp only [orMalformed, Except.bind, numberOf]
      split
      · split <;> simp [Except.map]
      · simp [Except.map]

theorem simple_bearable (text : List Char) : frontOf (takeSimple text) ≠ .error .tooDeep := by
  cases word : takeWord? text with
  | some front =>
      rw [simple_word text front.2 front.1 word]
      rintro ⟨⟩
  | none =>
      rw [simple_other text word]
      by_cases minus : ∃ rest, text = '-' :: rest
      · obtain ⟨rest, rfl⟩ := minus
        rw [signed_minus]
        exact number_bearable true rest
      · rw [signed_plain text fun rest found => minus ⟨rest, found⟩]
        exact number_bearable false text

theorem peak_simple (depth : Nat) (text after : List Char) (value : Value)
    (taken : frontOf (takeSimple text) = .ok (value, after)) : peak .outside depth text = peak .outside depth after := by
  cases word : takeWord? text with
  | some front =>
      rw [simple_word text front.2 front.1 word] at taken
      cases taken
      exact peak_word depth text _ _ word
  | none =>
      rw [simple_other text word] at taken
      by_cases minus : ∃ rest, text = '-' :: rest
      · obtain ⟨rest, rfl⟩ := minus
        rw [signed_minus] at taken
        rw [peak_plain depth '-' _ (by decide)]
        exact peak_number depth true rest after value taken
      · rw [signed_plain text fun rest found => minus ⟨rest, found⟩] at taken
        exact peak_number depth false text after value taken

-- What was read in front of the rest opens at most `levels` brackets within each other, and closes as many brackets that
-- were open before as `closing` says.
def Takes (closing levels : Nat) (text rest : List Char) : Prop :=
  ∀ depth, peak .outside (depth + closing) text = max (depth + closing + levels) (peak .outside depth rest)

theorem takes_both (closing one two : Nat) (text between rest : List Char) (first : Takes 0 one text between)
    (second : Takes closing two between rest) : Takes closing (max one two) text rest := by
  intro depth
  have here := first (depth + closing)
  have there := second depth
  rw [Nat.add_zero] at here
  omega

-- A bounded reader does what an unbounded one does, except that it gives up where more brackets are open than it allows.
inductive Bounded {α : Type} (levels closing : Nat) (text : List Char) :
    Except Fault (α × List Char) → Except Fault (α × List Char) → Prop where
  | read (value : α) (rest : List Char) (inside : Nat) (takes : Takes closing inside text rest) (within : inside ≤ levels) :
      Bounded levels closing text (.ok (value, rest)) (.ok (value, rest))
  | stopped (value : α) (rest : List Char) (inside : Nat) (takes : Takes closing inside text rest) (beyond : levels < inside) :
      Bounded levels closing text (.ok (value, rest)) (.error .tooDeep)
  | fault (fault : Fault) (free : fault ≠ .tooDeep) : Bounded levels closing text (.error fault) (.error fault)
  | lost (fault : Fault) (free : fault ≠ .tooDeep)
      (beyond : ∀ depth, depth + closing + levels < peak .outside (depth + closing) text) :
      Bounded levels closing text (.error fault) (.error .tooDeep)

theorem bounded_behind {α : Type} (levels closing : Nat) (text other : List Char) (free bounded : Except Fault (α × List Char))
    (same : ∀ depth, peak .outside depth text = peak .outside depth other) (behind : Bounded levels closing other free bounded) :
    Bounded levels closing text free bounded := by
  cases behind with
  | read value rest inside takes within => exact .read value rest inside (fun depth => (same _).trans (takes depth)) within
  | stopped value rest inside takes beyond =>
      exact .stopped value rest inside (fun depth => (same _).trans (takes depth)) beyond
  | fault fault free => exact .fault fault free
  | lost fault free beyond => exact .lost fault free fun depth => Nat.lt_of_lt_of_eq (beyond depth) (same _).symm

theorem bounded_bind {α β : Type} (levels closing : Nat) (text : List Char) (free bounded : Except Fault (α × List Char))
    (next more : α × List Char → Except Fault (β × List Char)) (first : Bounded levels 0 text free bounded)
    (onward : ∀ value rest, free = .ok (value, rest) → Bounded levels closing rest (next (value, rest)) (more (value, rest))) :
    Bounded levels closing text (free.bind next) (bounded.bind more) := by
  cases first with
  | read value rest inside takes within =>
      have second := onward value rest rfl
      simp only [Except.bind]
      generalize next (value, rest) = further at second
      generalize more (value, rest) = also at second
      cases second with
      | read other final deeper takes_more still =>
          exact .read other final _ (takes_both closing inside deeper text rest final takes takes_more) (by omega)
      | stopped other final deeper takes_more beyond =>
          exact .stopped other final _ (takes_both closing inside deeper text rest final takes takes_more) (by omega)
      | fault fault free => exact .fault fault free
      | lost fault free beyond =>
          refine .lost fault free fun depth => ?_
          have here := takes (depth + closing)
          have there := beyond depth
          rw [Nat.add_zero] at here
          omega
  | stopped value rest inside takes beyond =>
      have second := onward value rest rfl
      simp only [Except.bind]
      have deep (depth : Nat) : depth + closing + levels < peak .outside (depth + closing) text := by
        have here := takes (depth + closing)
        rw [Nat.add_zero] at here
        omega
      generalize next (value, rest) = further at second
      generalize more (value, rest) = also at second
      cases second with
      | read other final deeper takes_more still =>
          exact .stopped other final _ (takes_both closing inside deeper text rest final takes takes_more) (by omega)
      | stopped other final deeper takes_more beyond =>
          exact .stopped other final _ (takes_both closing inside deeper text rest final takes takes_more) (by omega)
      | fault fault free => exact .lost fault free deep
      | lost fault free beyond => exact .lost fault free deep
  | fault fault free => exact .fault fault free
  | lost fault free beyond =>
      refine .lost fault free fun depth => ?_
      simpa only [Nat.add_zero] using beyond (depth + closing)

theorem bounded_map {α β : Type} (levels closing : Nat) (text : List Char) (give : α → β)
    (free bounded : Except Fault (α × List Char)) (held : Bounded levels closing text free bounded) :
    Bounded levels closing text (free.map fun front => (give front.1, front.2)) (bounded.map fun front => (give front.1, front.2)) := by
  cases held with
  | read value rest inside takes within => exact .read (give value) rest inside takes within
  | stopped value rest inside takes beyond => exact .stopped (give value) rest inside takes beyond
  | fault fault free => exact .fault fault free
  | lost fault free beyond => exact .lost fault free beyond

theorem bounded_flat {α : Type} (levels : Nat) (text : List Char) (taken : Except Fault (α × List Char))
    (free : taken ≠ .error .tooDeep)
    (flat : ∀ value rest, taken = .ok (value, rest) → ∀ depth, peak .outside depth text = peak .outside depth rest) :
    Bounded levels 0 text taken taken := by
  cases taken with
  | error fault => exact .fault fault fun deep => free (congrArg Except.error deep)
  | ok front =>
      refine .read front.1 front.2 0 (fun depth => ?_) (Nat.zero_le levels)
      have below := depth_le_peak .outside depth front.2
      have same := flat front.1 front.2 rfl depth
      rw [Nat.add_zero]
      omega

theorem takes_closed (c : Char) (rest : List Char) (closes : c = ']' ∨ c = '\x7d') : Takes 1 0 (c :: rest) rest := by
  intro depth
  rcases closes with rfl | rfl <;> simp [peak]

theorem bounded_opened {α : Type} (levels : Nat) (c : Char) (rest : List Char) (opens : c = '[' ∨ c = '\x7b')
    (free : Except Fault (α × List Char)) (bounded : Levels → Except Fault (α × List Char))
    (inside : ∀ levels, Bounded levels 1 rest free (bounded (some levels))) :
    Bounded levels 0 (c :: rest) free ((Levels.inside (some levels)).bind bounded) := by
  have step (depth : Nat) : peak .outside depth (c :: rest) = peak .outside (depth + 1) rest := by
    rcases opens with rfl | rfl <;> simp [peak]
  have takes (final : List Char) (deeper : Nat) (behind : Takes 1 deeper rest final) : Takes 0 (deeper + 1) (c :: rest) final := by
    intro depth
    have next := behind depth
    rw [Nat.add_zero, step]
    omega
  cases levels with
  | zero =>
      have held := inside 0
      have deep (depth : Nat) : depth + 0 + 0 < peak .outside (depth + 0) (c :: rest) := by
        have := depth_le_peak .outside (depth + 1) rest
        rw [Nat.add_zero, step]
        omega
      generalize bounded (some 0) = other at held
      cases held with
      | read value final deeper behind => exact .stopped value final _ (takes final deeper behind) (by omega)
      | stopped value final deeper behind => exact .stopped value final _ (takes final deeper behind) (by omega)
      | fault fault free => exact .lost fault free deep
      | lost fault free beyond => exact .lost fault free deep
  | succ levels =>
      have held := inside levels
      simp only [Levels.inside, Except.bind]
      generalize bounded (some levels) = other at held
      cases held with
      | read value final deeper behind within => exact .read value final _ (takes final deeper behind) (by omega)
      | stopped value final deeper behind beyond => exact .stopped value final _ (takes final deeper behind) (by omega)
      | fault fault free => exact .fault fault free
      | lost fault free beyond =>
          refine .lost fault free fun depth => ?_
          have := beyond depth
          rw [Nat.add_zero, step]
          omega

theorem string_bounded (levels : Nat) (rest : List Char) :
    Bounded levels 0 ('"' :: rest) (frontOf (takeString rest)) (frontOf (takeString rest)) := by
  rw [string_front]
  cases units : takeUnits? rest with
  | none => exact .fault .malformed (by decide)
  | some front =>
      refine bounded_flat levels _ _ (by rintro ⟨⟩) fun value after taken depth => ?_
      cases taken
      simpa [peak] using peak_units depth rest front.2 front.1 units

mutual

theorem value_bounded (levels : Nat) (text : List Char) :
    Bounded levels 0 text (valueFront none text) (valueFront (some levels) text) := by
  by_cases quote : ∃ rest, text = '"' :: rest
  · obtain ⟨rest, rfl⟩ := quote
    rw [value_string, value_string]
    exact bounded_map levels 0 _ Value.str _ _ (string_bounded levels rest)
  · by_cases list : ∃ rest, text = '[' :: rest
    · obtain ⟨rest, rfl⟩ := list
      rw [value_list, value_list]
      refine bounded_opened levels '[' rest (.inl rfl) _ _ fun inside => ?_
      simp only [Levels.inside, Except.bind]
      split
      · rename_i after closed
        refine bounded_behind inside 1 rest (']' :: after) _ _ (fun depth => ?_)
          (.read _ after 0 (takes_closed ']' after (.inl rfl)) (Nat.zero_le inside))
        rw [peak_skipped, closed]
      · exact bounded_map inside 1 rest Value.list _ _ (items_bounded inside rest)
    · by_cases mapping : ∃ rest, text = '\x7b' :: rest
      · obtain ⟨rest, rfl⟩ := mapping
        rw [value_mapping, value_mapping]
        refine bounded_opened levels '\x7b' rest (.inr rfl) _ _ fun inside => ?_
        simp only [Levels.inside, Except.bind]
        split
        · rename_i after closed
          refine bounded_behind inside 1 rest ('\x7d' :: after) _ _ (fun depth => ?_)
            (.read _ after 0 (takes_closed '\x7d' after (.inr rfl)) (Nat.zero_le inside))
          rw [peak_skipped, closed]
        · exact bounded_map inside 1 rest Value.map _ _ (members_bounded inside [] rest)
      · have no_quote := fun rest found => quote ⟨rest, found⟩
        have no_list := fun rest found => list ⟨rest, found⟩
        have no_mapping := fun rest found => mapping ⟨rest, found⟩
        rw [value_simple none text no_quote no_list no_mapping, value_simple (some levels) text no_quote no_list no_mapping]
        exact bounded_flat levels text _ (simple_bearable text) fun value rest taken depth =>
          peak_simple depth text rest value taken
termination_by 2 * text.length

theorem items_bounded (levels : Nat) (text : List Char) :
    Bounded levels 1 text (itemsFront none text) (itemsFront (some levels) text) := by
  have skipped := length_skipSpaces_le text
  rw [items_front, items_front]
  refine bounded_behind levels 1 text _ _ _ (fun depth => peak_skipped depth text)
    (bounded_bind levels 1 _ _ _ _ _ (value_bounded levels (skipSpaces text)) fun item rest found => ?_)
  have shorter := front_shorter _ rest item _ found
  refine bounded_behind levels 1 rest _ _ _ (fun depth => peak_skipped depth rest) ?_
  dsimp only
  split
  · rename_i final closed
    rw [closed]
    exact .read _ final 0 (takes_closed ']' final (.inl rfl)) (Nat.zero_le levels)
  · rename_i next comma
    have less := skip_shorter rest next ',' comma
    rw [comma]
    exact bounded_behind levels 1 _ next _ _ (fun depth => peak_plain depth ',' next (by decide))
      (bounded_map levels 1 next (item :: ·) _ _ (items_bounded levels next))
  · exact .fault .malformed (by decide)
termination_by 2 * text.length + 1

theorem members_bounded (levels : Nat) (entries : Entries) (text : List Char) :
    Bounded levels 1 text (membersFront none entries text) (membersFront (some levels) entries text) := by
  rw [members_front, members_front]
  refine bounded_behind levels 1 text _ _ _ (fun depth => peak_skipped depth text) ?_
  split
  · rename_i inside opened
    have first := skip_shorter text inside '"' opened
    rw [opened]
    refine bounded_bind levels 1 _ _ _ _ _ (string_bounded levels inside) fun key rest found => ?_
    have second := front_shorter inside rest key _ found
    refine bounded_behind levels 1 rest _ _ _ (fun depth => peak_skipped depth rest) ?_
    dsimp only
    split
    · rename_i value colon
      have third := skip_shorter rest value ':' colon
      have fourth := length_skipSpaces_le value
      rw [colon]
      refine bounded_behind levels 1 _ (skipSpaces value) _ _
        (fun depth => (peak_plain depth ':' value (by decide)).trans (peak_skipped depth value)) ?_
      refine bounded_bind levels 1 _ _ _ _ _ (value_bounded levels (skipSpaces value)) fun held left found => ?_
      have fifth := front_shorter _ left held _ found
      refine bounded_behind levels 1 left _ _ _ (fun depth => peak_skipped depth left) ?_
      dsimp only
      split
      · rename_i final closed
        rw [closed]
        exact .read _ final 0 (takes_closed '\x7d' final (.inr rfl)) (Nat.zero_le levels)
      · rename_i next comma
        have sixth := skip_shorter left next ',' comma
        rw [comma]
        exact bounded_behind levels 1 _ next _ _ (fun depth => peak_plain depth ',' next (by decide))
          (members_bounded levels _ next)
      · exact .fault .malformed (by decide)
    · exact .fault .malformed (by decide)
  · exact .fault .malformed (by decide)
termination_by 2 * text.length + 1

end

theorem peak_blank (text : List Char) (blank : skipSpaces text = []) : peak .outside 0 text = 0 := by
  rw [peak_skipped, blank]
  rfl

theorem read_bearable (text : List Char) : read none text ≠ .error .tooDeep := by
  have value := value_bounded 0 (skipSpaces text)
  rw [read_front]
  generalize valueFront none (skipSpaces text) = free at value
  generalize valueFront (some 0) (skipSpaces text) = bounded at value
  have ends (value : Value) (rest : List Char) : (if skipSpaces rest = [] then .ok value else .error .malformed) ≠
      (.error .tooDeep : Except Fault Value) := by
    split <;> simp
  cases value with
  | read value rest => exact ends value rest
  | stopped value rest => exact ends value rest
  | fault fault free => simpa [Except.bind] using free
  | lost fault free => simpa [Except.bind] using free

theorem read_shallow (levels : Nat) (text : List Char) (shallow : deepest text ≤ levels) :
    read (some levels) text = read none text := by
  have value := value_bounded levels (skipSpaces text)
  rw [deepest, peak_skipped] at shallow
  rw [read_front, read_front]
  generalize valueFront none (skipSpaces text) = free at value
  generalize valueFront (some levels) (skipSpaces text) = bounded at value
  cases value with
  | read => rfl
  | stopped value rest inside takes beyond =>
      have depth := takes 0
      simp only [Nat.zero_add] at depth
      omega
  | fault => rfl
  | lost fault free beyond =>
      have depth := beyond 0
      simp only [Nat.zero_add] at depth
      omega

theorem read_deep (levels : Nat) (text : List Char) (value : Value) (well_formed : read none text = .ok value)
    (deep : levels < deepest text) : read (some levels) text = .error .tooDeep := by
  have bounded := value_bounded levels (skipSpaces text)
  rw [deepest, peak_skipped] at deep
  rw [read_front] at well_formed ⊢
  generalize valueFront none (skipSpaces text) = free at bounded well_formed
  generalize valueFront (some levels) (skipSpaces text) = other at bounded
  cases bounded with
  | read value rest inside takes within =>
      simp only [Except.bind] at well_formed
      split at well_formed
      · rename_i blank
        have depth := takes 0
        rw [peak_blank rest blank] at depth
        simp only [Nat.zero_add] at depth
        omega
      · cases well_formed
  | stopped => rfl
  | fault fault free => cases well_formed
  | lost fault free beyond => cases well_formed

end PipelineLint.Json
