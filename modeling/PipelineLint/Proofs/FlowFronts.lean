import PipelineLint.Document.Inline
import PipelineLint.Proofs.Runs

set_option autoImplicit false

namespace PipelineLint.Document

/-! ## Fronts -/

abbrev Front (α : Type) := Option (α × List Char)

def QuotedText.front? : QuotedText → Front (List Char)
  | .closed content rest => some (content, rest)
  | _ => none

def quotedFront? (quote : Char) (text : List Char) : Front (List Char) :=
  (if quote = '\'' then takeSingle text else takeDouble text).front?

def flowFront? (whole stops text : List Char) : Front Value :=
  (frontOf (takeFlow whole stops text)).toOption

def itemsFront? (whole text : List Char) : Front (List Value) :=
  (frontOf (takeFlowItems whole text)).toOption

def entriesFront? (whole : List Char) (entries : Entries) (text : List Char) : Front Entries :=
  (frontOf (takeFlowEntries whole entries text)).toOption

def plainFront? (stops text : List Char) : Front Value :=
  match coercePlain (Text.trim (text.takeWhile fun c => !stops.contains c)) with
  | .ok value => some (value, text.dropWhile fun c => !stops.contains c)
  | .error _ => none

theorem quoted_front (quote : Char) (text : List Char) :
    (frontOf (takeQuoted quote text)).toOption = (quotedFront? quote text).map fun taken => (String.ofList taken.1, taken.2) := by
  unfold takeQuoted quotedFront?
  split
  · split <;> simp [QuotedText.front?, *]
  · split <;> simp [QuotedText.front?, *]

theorem flow_front_nil (whole stops : List Char) : flowFront? whole stops [] = none := by
  rw [flowFront?, takeFlow]
  rfl

theorem flow_front_cons (whole stops : List Char) (c : Char) (rest : List Char) :
    flowFront? whole stops (c :: rest) =
      if isFlowSpace c then flowFront? whole stops rest
      else if c = '[' then (itemsFront? whole rest).map fun taken => (.list taken.1, taken.2)
      else if c = '\x7b' then (entriesFront? whole [] rest).map fun taken => (.map taken.1, taken.2)
      else if isQuote c then (quotedFront? c rest).map fun taken => (.str (String.ofList taken.1), taken.2)
      else plainFront? stops (c :: rest) := by
  unfold flowFront?
  rw [takeFlow]
  split
  · cases takeFlow whole stops rest <;> rfl
  · split
    · unfold itemsFront?
      cases takeFlowItems whole rest <;> rfl
    · split
      · unfold entriesFront?
        cases takeFlowEntries whole [] rest <;> rfl
      · split
        · have inside := congrArg (Option.map fun taken => (Value.str taken.1, taken.2)) (quoted_front c rest)
          rw [Option.map_map] at inside
          refine Eq.trans ?_ inside
          cases takeQuoted c rest <;> rfl
        · dsimp only
          unfold plainFront?
          cases coercePlain (Text.trim ((c :: rest).takeWhile fun d => !stops.contains d)) <;> rfl

theorem items_front (whole text : List Char) : itemsFront? whole text =
    match skipFlowSpaces text with
    | ']' :: rest => some ([], rest)
    | _ => (flowFront? whole itemStops text).bind fun taken =>
        match skipFlowSpaces taken.2 with
        | ',' :: more => (itemsFront? whole more).map fun others => (taken.1 :: others.1, others.2)
        | ']' :: final => some ([taken.1], final)
        | _ => none := by
  unfold itemsFront? flowFront?
  rw [takeFlowItems]
  split
  · rename_i rest opened
    simp only [opened]
    rfl
  · rename_i other
    cases takeFlow whole itemStops text with
    | error fault => simp
    | ok front =>
        obtain ⟨item, after, shorter⟩ := front
        simp only [front_of_ok, option_of_ok, Option.bind_some]
        split
        · rename_i more next
          simp only [next]
          cases takeFlowItems whole more <;> rfl
        · rename_i final next
          simp only [next, front_of_ok, option_of_ok]
        · simp

def behindColon? (whole after : List Char) : Front Value :=
  match skipFlowSpaces after with
  | ',' :: _ => some (.null, after)
  | '\x7d' :: _ => some (.null, after)
  | _ => flowFront? whole entryStops after

def behindKey? (whole after : List Char) : Front Value :=
  match skipFlowSpaces after with
  | ':' :: rest => behindColon? whole rest
  | _ => some (.null, after)

theorem spaces_shorter (text rest : List Char) (c : Char) (next : skipFlowSpaces text = c :: rest) : rest.length < text.length := by
  have skipped := length_skipFlowSpaces_le text
  rwa [next, List.length_cons] at skipped

theorem behind_colon_smaller {text after rest : List Char} (shorter : after.length ≤ text.length)
    (colon : skipFlowSpaces after = ':' :: rest) : rest.length < text.length :=
  Nat.lt_of_lt_of_le (spaces_shorter after rest ':' colon) shorter

theorem remainder_of_shorter {text rest : List Char} (shorter : rest.length < text.length) : rest.length ≤ text.length :=
  Nat.le_of_lt shorter

theorem remainder_behind {text rest after : List Char} (less : after.length ≤ rest.length)
    (shorter : rest.length < text.length) : after.length ≤ text.length :=
  Nat.le_trans less (Nat.le_of_lt shorter)

def takeBehindKey (whole text after : List Char) (shorter : after.length ≤ text.length) :
    Except Fault (Value × Remainder text) :=
  match colon : skipFlowSpaces after with
  | ':' :: rest =>
      have smaller : rest.length < text.length := behind_colon_smaller shorter colon
      match skipFlowSpaces rest with
      | ',' :: _ => .ok (.null, ⟨rest, remainder_of_shorter smaller⟩)
      | '\x7d' :: _ => .ok (.null, ⟨rest, remainder_of_shorter smaller⟩)
      | _ =>
          match takeFlow whole entryStops rest with
          | .ok (value, ⟨final, less⟩) => .ok (value, ⟨final, remainder_behind less smaller⟩)
          | .error fault => .error fault
  | _ => .ok (.null, ⟨after, shorter⟩)

theorem behind_key (whole text after : List Char) (shorter : after.length ≤ text.length) :
    (frontOf (takeBehindKey whole text after shorter)).toOption = behindKey? whole after := by
  unfold takeBehindKey behindKey? behindColon? flowFront?
  split
  · rename_i rest colon
    simp only [colon]
    split <;> try rfl
    cases takeFlow whole entryStops rest <;> rfl
  · simp

theorem entries_front (whole : List Char) (entries : Entries) (text : List Char) : entriesFront? whole entries text =
    match skipFlowSpaces text with
    | '\x7d' :: rest => some (entries, rest)
    | _ => (flowFront? whole keyStops text).bind fun taken => (behindKey? whole taken.2).bind fun held =>
        taken.1.key?.bind fun key =>
          match skipFlowSpaces held.2 with
          | ',' :: more => entriesFront? whole (entries.put key held.1) more
          | '\x7d' :: final => some (entries.put key held.1, final)
          | _ => none := by
  unfold entriesFront? flowFront?
  rw [takeFlowEntries]
  split
  · rename_i rest opened
    simp only [opened]
    rfl
  · rename_i other
    cases takeFlow whole keyStops text with
    | error fault => simp
    | ok front =>
        obtain ⟨key, afterKey, shorter⟩ := front
        simp only [front_of_ok, option_of_ok, Option.bind_some]
        rw [← behind_key whole text afterKey shorter]
        split
        · rename_i fault found
          have unread : takeBehindKey whole text afterKey shorter = .error fault := found
          rw [unread]
          rfl
        · rename_i value after bound found
          have read : takeBehindKey whole text afterKey shorter = .ok (value, ⟨after, bound⟩) := found
          rw [read]
          simp only [front_of_ok, option_of_ok, Option.bind_some]
          cases key.key? with
          | none => rfl
          | some key =>
              simp only [Option.bind_some]
              split
              · rename_i more next
                simp only [next]
                cases takeFlowEntries whole (entries.put key value) more <;> rfl
              · rename_i final next
                simp only [next, front_of_ok, option_of_ok]
              · simp

/-! ## More text behind a closed value -/

def Kept {α : Type} (long : Front α) (taken : α × List Char) : Prop :=
  ∀ found, long = some found → found = taken

theorem push_front (c : Char) (inside : QuotedText) :
    (inside.push c).front? = inside.front?.map fun taken => (c :: taken.1, taken.2) := by
  cases inside <;> rfl

theorem kept_none {α : Type} (taken : α × List Char) : Kept none taken := by
  intro found same
  cases same

theorem kept_some {α : Type} (taken : α × List Char) : Kept (some taken) taken := by
  intro found same
  exact (Option.some.inj same).symm

theorem kept_map {α β : Type} (give : α → β) (long : Front α) (value : α) (after : List Char)
    (kept : Kept long (value, after)) : Kept (long.map fun taken => (give taken.1, taken.2)) (give value, after) := by
  intro found same
  obtain ⟨taken, here, rfl⟩ := Option.map_eq_some_iff.mp same
  rw [kept taken here]

theorem kept_bind {α β : Type} (long : Front α) (taken : α × List Char) (next : α × List Char → Front β)
    (final : β × List Char) (kept : Kept long taken) (behind : Kept (next taken) final) :
    Kept (long.bind next) final := by
  intro found same
  obtain ⟨here, front, back⟩ := Option.bind_eq_some_iff.mp same
  rw [kept here front] at back
  exact behind found back

theorem kept_push (c : Char) (long : QuotedText) (content after : List Char) (kept : Kept long.front? (content, after)) :
    Kept (long.push c).front? (c :: content, after) := by
  rw [push_front]
  exact kept_map (c :: ·) long.front? content after kept

theorem pushed_closed (c : Char) (inside : QuotedText) (content after : List Char)
    (closed : inside.push c = .closed content after) : ∃ rest, content = c :: rest ∧ inside = .closed rest after := by
  cases inside with
  | closed rest behind =>
      cases closed
      exact ⟨rest, rfl, rfl⟩
  | _ => cases closed

theorem quote_no_digit (base : Nat) (before : Option Nat) (text : List Char) (quote : '"' ∈ text) :
    Numeral.radixDigits? base before text = none := by
  have no_digit : (Numeral.radixDigit? '"').filter (· < base) = none := by
    have none : Numeral.radixDigit? '"' = none := by decide
    rw [none]
    rfl
  fun_induction Numeral.radixDigits? base before text with
  | case1 => cases quote
  | case2 value c rest digit found ih => 
      simp only [List.mem_cons] at quote
      rcases quote with h | rfl | behind
      · cases h
      · rw [no_digit] at found
        cases found
      · exact ih behind
  | case3 => rfl
  | case4 before c rest no_pair digit found ih =>
      rcases List.mem_cons.mp quote with rfl | behind
      · rw [no_digit] at found
        cases found
      · exact ih behind
  | case5 => rfl

theorem radix_mark_letter (base : Nat) : Numeral.radixMark? base ≠ some '"' := by
  unfold Numeral.radixMark?
  rw [Ne, List.lookup_eq_some_iff]
  rintro ⟨front, back, split, -⟩
  have letter : (base, '"') ∈ [(2, 'b'), (8, 'o'), (16, 'x')] := by
    rw [split]
    simp
  simp at letter

theorem quote_behind_mark (base : Nat) (text : List Char) (quote : '"' ∈ text) : '"' ∈ Numeral.behindRadixMark base text := by
  unfold Numeral.behindRadixMark
  split
  · rename_i zero mark rest
    split
    · rename_i marked
      simp only [Bool.and_eq_true, decide_eq_true_eq] at marked
      have no_zero : '"' ≠ zero := by
        rintro rfl
        exact absurd marked.1 (by decide)
      have no_mark : '"' ≠ mark := by
        rintro rfl
        exact radix_mark_letter base marked.2
      simp only [List.mem_cons, no_zero, no_mark, false_or] at quote
      split
      · simpa using quote
      · exact quote
    · exact quote
  · exact quote

theorem quote_inside_margins (text : List Char) (quote : '"' ∈ text) : '"' ∈ Numeral.trimMargins text := by
  have no_margin : Numeral.isMargin '"' = false := by decide
  have ahead : '"' ∈ text.dropWhile Numeral.isMargin := by
    rcases List.mem_append.mp (List.takeWhile_append_dropWhile (p := Numeral.isMargin) (l := text) ▸ quote) with front | back
    · have margin := List.all_eq_true.mp List.all_takeWhile '"' front
      rw [no_margin] at margin
      cases margin
    · exact back
  obtain ⟨dropped, split, margins⟩ := Text.dropTrailing_append_dropped Numeral.isMargin (text.dropWhile Numeral.isMargin)
  rw [split] at ahead
  rcases List.mem_append.mp ahead with kept | back
  · exact kept
  · exact absurd (List.all_eq_true.mp margins '"' back) (by simp [no_margin])

theorem quote_behind_sign (text : List Char) (quote : '"' ∈ text) : '"' ∈ (Numeral.takeSign text).2 := by
  unfold Numeral.takeSign
  split
  · simpa using quote
  · simpa using quote
  · exact quote

theorem quoted_no_code (text : List Char) (quote : '"' ∈ text) : escapedCode? text = none := by
  have digits := quote_behind_mark 16 _ (quote_behind_sign _ (quote_inside_margins text quote))
  have unread : Numeral.radixInteger? 16 text = none := by
    simp only [Numeral.radixInteger?, quote_no_digit 16 none _ digits, Option.map_none]
  rw [escapedCode?, unread]

theorem double_quote (text content after : List Char) (closed : takeDouble text = .closed content after) : '"' ∈ text := by
  fun_induction takeDouble text generalizing content with
  | case1 => cases closed
  | case2 rest => exact List.mem_cons_self
  | case4 => cases closed
  | case6 c rest short escaped ih =>
      obtain ⟨outer, -, pushed⟩ := pushed_closed _ _ _ _ closed
      obtain ⟨inner, -, inside⟩ := pushed_closed _ _ _ _ pushed
      simp [ih inner inside]
  | _ =>
      rename_i ih
      obtain ⟨inner, -, inside⟩ := pushed_closed _ _ _ _ closed
      simp [ih inner inside]

theorem take_single_other (c : Char) (rest : List Char) (no_quote : c ≠ '\'') :
    takeSingle (c :: rest) = (takeSingle rest).push c :=
  takeSingle.eq_4 c rest (fun _ quote => absurd quote no_quote) no_quote

theorem take_single_closed (rest : List Char) (no_quote : rest.head? ≠ some '\'') : takeSingle ('\'' :: rest) = .closed [] rest :=
  takeSingle.eq_3 rest fun tail => by
    rintro rfl
    exact no_quote rfl

theorem single_kept (text more content after : List Char) (closed : takeSingle text = .closed content after)
    (apart : after ≠ [] ∨ more.head? ≠ some '\'') : Kept (takeSingle (text ++ more)).front? (content, after ++ more) := by
  fun_induction takeSingle text generalizing content with
  | case1 => cases closed
  | case2 rest ih =>
      obtain ⟨inner, rfl, inside⟩ := pushed_closed _ _ _ _ closed
      exact kept_push '\'' _ inner (after ++ more) (ih inner inside)
  | case3 rest no_pair =>
      cases closed
      have no_quote : (after ++ more).head? ≠ some '\'' := by
        cases after with
        | nil => exact apart.resolve_left (· rfl)
        | cons c tail =>
            intro quote
            exact no_pair tail (by rw [Option.some.inj quote])
      rw [List.cons_append, take_single_closed _ no_quote]
      exact kept_some _
  | case4 c rest no_pair no_quote ih =>
      obtain ⟨inner, rfl, inside⟩ := pushed_closed _ _ _ _ closed
      rw [List.cons_append, take_single_other c _ no_quote]
      exact kept_push c _ inner (after ++ more) (ih inner inside)

theorem take_double_other (c : Char) (rest : List Char) (no_quote : c ≠ '"') (no_escape : c ≠ '\\') :
    takeDouble (c :: rest) = (takeDouble rest).push c := by
  rw [takeDouble]
  · exact no_quote
  · intro _ _ _ _ _ slash
    exact absurd slash no_escape
  · intro _ _ slash
    exact absurd slash no_escape

theorem take_double_escape (c : Char) (rest : List Char) (no_code : c = 'u' → rest.length < 4) :
    takeDouble ('\\' :: c :: rest) =
      match simpleEscape? c with
      | some plain => (takeDouble rest).push plain
      | none => ((takeDouble rest).push c).push '\\' := by
  have short : ∀ a b d e tail, c = 'u' → rest = a :: b :: d :: e :: tail → False := by
    rintro a b d e tail code rfl
    have fewer := no_code code
    simp only [List.length_cons] at fewer
    omega
  exact takeDouble.eq_4 c rest short

theorem double_kept (text more content after : List Char) (closed : takeDouble text = .closed content after) :
    Kept (takeDouble (text ++ more)).front? (content, after ++ more) := by
  fun_induction takeDouble text generalizing content with
  | case1 => cases closed
  | case2 rest =>
      cases closed
      exact kept_some _
  | case3 a b c d rest code escaped ih =>
      obtain ⟨inner, rfl, inside⟩ := pushed_closed _ _ _ _ closed
      simp only [List.cons_append, takeDouble, escaped]
      exact kept_push _ _ inner (after ++ more) (ih inner inside)
  | case4 => cases closed
  | case5 c rest short plain escaped ih =>
      obtain ⟨inner, rfl, inside⟩ := pushed_closed _ _ _ _ closed
      have no_code : c ≠ 'u' := by
        rintro rfl
        cases escaped
      rw [List.cons_append, List.cons_append, take_double_escape c _ (fun code => absurd code no_code), escaped]
      exact kept_push plain _ inner (after ++ more) (ih inner inside)
  | case6 c rest short escaped ih =>
      obtain ⟨outer, rfl, pushed⟩ := pushed_closed _ _ _ _ closed
      obtain ⟨inner, rfl, inside⟩ := pushed_closed _ _ _ _ pushed
      by_cases no_code : c = 'u' → (rest ++ more).length < 4
      · rw [List.cons_append, List.cons_append, take_double_escape c _ no_code, escaped]
        exact kept_push _ _ _ _ (kept_push c _ inner (after ++ more) (ih inner inside))
      · -- the four characters of the code would go over the closing quote
        simp only [Classical.not_imp, Nat.not_lt] at no_code
        obtain ⟨rfl, enough⟩ := no_code
        have few : rest.length ≤ 4 := by
          rcases rest with _ | ⟨a, _ | ⟨b, _ | ⟨d, _ | ⟨e, tail⟩⟩⟩⟩
          case cons.cons.cons.cons => exact (short a b d e tail rfl rfl).elim
          all_goals simp
        have quote := double_quote rest inner after inside
        match split : rest ++ more, enough with
        | a :: b :: d :: e :: tail, _ =>
            have front : rest <+: a :: b :: d :: e :: tail := split ▸ List.prefix_append rest more
            have within : '"' ∈ [a, b, d, e] :=
              (List.prefix_of_prefix_length_le front (List.prefix_append [a, b, d, e] tail) few).subset quote
            rw [List.cons_append, List.cons_append, split, takeDouble, quoted_no_code _ within]
            exact kept_none _
  | case7 c rest no_quote no_code no_escape ih =>
      obtain ⟨inner, rfl, inside⟩ := pushed_closed _ _ _ _ closed
      have no_slash : c ≠ '\\' := by
        rintro rfl
        cases rest with
        | nil => cases inside
        | cons d tail => exact no_escape d tail rfl rfl
      rw [List.cons_append, take_double_other c _ no_quote no_slash]
      exact kept_push c _ inner (after ++ more) (ih inner inside)
theorem quoted_kept (quote : Char) (text more content after : List Char)
    (closed : quotedFront? quote text = some (content, after)) (apart : after ≠ [] ∨ more.head? ≠ some '\'') :
    Kept (quotedFront? quote (text ++ more)) (content, after ++ more) := by
  unfold quotedFront? at closed ⊢
  have found (inside : QuotedText) (front : inside.front? = some (content, after)) : inside = .closed content after := by
    cases inside <;> cases front
    rfl
  split at closed
  · rename_i single
    rw [if_pos single]
    exact single_kept text more content after (found _ closed) apart
  · rename_i double
    rw [if_neg double]
    exact double_kept text more content after (found _ closed)

def behindItem? (whole : List Char) (item : Value) (after : List Char) : Front (List Value) :=
  match skipFlowSpaces after with
  | ',' :: more => (itemsFront? whole more).map fun others => (item :: others.1, others.2)
  | ']' :: final => some ([item], final)
  | _ => none

def behindMember? (whole : List Char) (entries : Entries) (after : List Char) : Front Entries :=
  match skipFlowSpaces after with
  | ',' :: more => entriesFront? whole entries more
  | '\x7d' :: final => some (entries, final)
  | _ => none

theorem spaces_skipped (text more : List Char) (c : Char) (rest : List Char) (start : skipFlowSpaces text = c :: rest) :
    skipFlowSpaces (text ++ more) = c :: (rest ++ more) := by
  unfold skipFlowSpaces at start ⊢
  rw [List.dropWhile_append, start]
  rfl

theorem front_shorter (whole stops text : List Char) (value : Value) (after : List Char)
    (front : flowFront? whole stops text = some (value, after)) : after.length ≤ text.length := by
  unfold flowFront? at front
  cases taken : takeFlow whole stops text with
  | error fault =>
      rw [taken] at front
      cases front
  | ok found =>
      rw [taken] at front
      cases front
      exact found.2.2

theorem front_ink (whole stops text : List Char) (taken : Value × List Char) (front : flowFront? whole stops text = some taken) :
    skipFlowSpaces text ≠ [] := by
  induction text with
  | nil =>
      rw [flow_front_nil] at front
      cases front
  | cons c rest ih =>
      rw [flow_front_cons] at front
      unfold skipFlowSpaces at ih ⊢
      by_cases space : isFlowSpace c = true
      · rw [if_pos space] at front
        rw [List.dropWhile_cons_of_pos space]
        exact ih front
      · rw [List.dropWhile_cons_of_neg space]
        simp

theorem behind_colon_shorter (whole behind : List Char) (value : Value) (after : List Char)
    (front : behindColon? whole behind = some (value, after)) : after.length ≤ behind.length := by
  unfold behindColon? at front
  split at front
  · cases front
    exact Nat.le_refl _
  · cases front
    exact Nat.le_refl _
  · exact front_shorter whole entryStops behind value after front

theorem behind_key_shorter (whole behind : List Char) (value : Value) (after : List Char)
    (front : behindKey? whole behind = some (value, after)) : after.length ≤ behind.length := by
  unfold behindKey? at front
  have skipped := length_skipFlowSpaces_le behind
  split at front
  · rename_i rest colon
    rw [colon, List.length_cons] at skipped
    have fewer := behind_colon_shorter whole rest value after front
    omega
  · cases front
    exact Nat.le_refl _

theorem plain_kept (stops text more : List Char) (value : Value) (after : List Char)
    (front : plainFront? stops text = some (value, after)) (some_left : after ≠ []) :
    Kept (plainFront? stops (text ++ more)) (value, after ++ more) := by
  unfold plainFront? at front ⊢
  split at front
  · rename_i held coerced
    cases front
    have drops : (text ++ more).dropWhile (fun c => !stops.contains c) =
        text.dropWhile (fun c => !stops.contains c) ++ more := by
      rw [List.dropWhile_append, if_neg (by simpa using some_left)]
    have takes : (text ++ more).takeWhile (fun c => !stops.contains c) = text.takeWhile fun c => !stops.contains c := by
      have fewer := List.length_pos_iff.mpr some_left
      have whole := congrArg List.length (List.takeWhile_append_dropWhile (p := fun c => !stops.contains c) (l := text))
      rw [List.length_append] at whole
      rw [List.takeWhile_append, if_neg (by omega)]
    rw [takes, coerced, drops]
    exact kept_some _
  · cases front

theorem spaces_skipped_head (text more : List Char) (ink : skipFlowSpaces text ≠ []) :
    (skipFlowSpaces (text ++ more)).head? = (skipFlowSpaces text).head? := by
  obtain ⟨c, rest, start⟩ := List.exists_cons_of_ne_nil ink
  rw [spaces_skipped text more c rest start, start]
  rfl

theorem items_front_end (whole text rest : List Char) (start : skipFlowSpaces text = ']' :: rest) :
    itemsFront? whole text = some ([], rest) := by
  simp [items_front, start]

theorem items_front_item (whole text : List Char) (no_end : (skipFlowSpaces text).head? ≠ some ']') :
    itemsFront? whole text = (flowFront? whole itemStops text).bind fun taken => behindItem? whole taken.1 taken.2 := by
  rw [items_front]
  split
  · rename_i start
    rw [start] at no_end
    contradiction
  · rfl

theorem entries_front_end (whole text rest : List Char) (entries : Entries) (start : skipFlowSpaces text = '\x7d' :: rest) :
    entriesFront? whole entries text = some (entries, rest) := by
  simp [entries_front, start]

theorem entries_front_entry (whole text : List Char) (entries : Entries)
    (no_end : (skipFlowSpaces text).head? ≠ some '\x7d') :
    entriesFront? whole entries text =
      (flowFront? whole keyStops text).bind fun taken => (behindKey? whole taken.2).bind fun held =>
        taken.1.key?.bind fun key => behindMember? whole (entries.put key held.1) held.2 := by
  rw [entries_front]
  split
  · rename_i start
    rw [start] at no_end
    contradiction
  · rfl

section Longer

variable (whole other more : List Char)

def FlowKept (text : List Char) : Prop :=
  ∀ stops value after, flowFront? whole stops text = some (value, after) → after ≠ [] →
    Kept (flowFront? other stops (text ++ more)) (value, after ++ more)

def ItemsKept (text : List Char) : Prop :=
  ∀ items after, itemsFront? whole text = some (items, after) →
    Kept (itemsFront? other (text ++ more)) (items, after ++ more)

def EntriesKept (text : List Char) : Prop :=
  ∀ entries all after, entriesFront? whole entries text = some (all, after) →
    Kept (entriesFront? other entries (text ++ more)) (all, after ++ more)

theorem flow_kept (text : List Char)
    (shorter : ∀ rest : List Char, rest.length < text.length → FlowKept whole other more rest ∧
      ItemsKept whole other more rest ∧ EntriesKept whole other more rest) : FlowKept whole other more text := by
  intro stops value after front some_left
  cases text with
  | nil =>
      rw [flow_front_nil] at front
      cases front
  | cons c rest =>
      obtain ⟨flow, items, entries⟩ := shorter rest (by simp)
      rw [flow_front_cons] at front
      rw [List.cons_append, flow_front_cons]
      by_cases space : isFlowSpace c = true
      · rw [if_pos space] at front ⊢
        exact flow stops value after front some_left
      rw [if_neg space] at front ⊢
      by_cases bracket : c = '['
      · rw [if_pos bracket] at front ⊢
        obtain ⟨taken, inside, same⟩ := Option.map_eq_some_iff.mp front
        cases same
        exact kept_map _ _ taken.1 (taken.2 ++ more) (items taken.1 taken.2 inside)
      rw [if_neg bracket] at front ⊢
      by_cases brace : c = '\x7b'
      · rw [if_pos brace] at front ⊢
        obtain ⟨taken, inside, same⟩ := Option.map_eq_some_iff.mp front
        cases same
        exact kept_map _ _ taken.1 (taken.2 ++ more) (entries [] taken.1 taken.2 inside)
      rw [if_neg brace] at front ⊢
      by_cases quote : isQuote c = true
      · rw [if_pos quote] at front ⊢
        obtain ⟨taken, inside, same⟩ := Option.map_eq_some_iff.mp front
        cases same
        exact kept_map (fun content => Value.str (String.ofList content)) _ taken.1 (taken.2 ++ more)
          (quoted_kept c rest more taken.1 taken.2 inside (.inl some_left))
      rw [if_neg quote] at front ⊢
      exact plain_kept stops (c :: rest) more value after front some_left

theorem behind_item_kept (item : Value) (behind : List Char) (items : List Value) (after : List Char)
    (shorter : ∀ rest : List Char, rest.length < behind.length → ItemsKept whole other more rest)
    (front : behindItem? whole item behind = some (items, after)) :
    Kept (behindItem? other item (behind ++ more)) (items, after ++ more) := by
  unfold behindItem? at front ⊢
  have skipped := length_skipFlowSpaces_le behind
  split at front
  · rename_i rest next
    rw [next, List.length_cons] at skipped
    rw [spaces_skipped behind more ',' rest next]
    obtain ⟨others, inside, same⟩ := Option.map_eq_some_iff.mp front
    cases same
    exact kept_map (item :: ·) _ others.1 (others.2 ++ more) (shorter rest skipped others.1 others.2 inside)
  · rename_i final next
    cases front
    rw [spaces_skipped behind more ']' after next]
    exact kept_some _
  · cases front

theorem items_kept (text : List Char) (flow : FlowKept whole other more text)
    (shorter : ∀ rest : List Char, rest.length < text.length → ItemsKept whole other more rest) :
    ItemsKept whole other more text := by
  intro items after front
  by_cases closed : (skipFlowSpaces text).head? = some ']'
  · obtain ⟨rest, start⟩ := List.head?_eq_some_iff.mp closed
    rw [items_front_end whole text rest start] at front
    cases front
    rw [items_front_end other _ _ (spaces_skipped text more ']' _ start)]
    exact kept_some _
  · rw [items_front_item whole text closed] at front
    obtain ⟨⟨item, behind⟩, here, onward⟩ := Option.bind_eq_some_iff.mp front
    rw [items_front_item other _ (spaces_skipped_head text more (front_ink whole _ text _ here) ▸ closed)]
    have some_left : behind ≠ [] := by
      rintro rfl
      cases onward
    have fewer := front_shorter whole _ text item behind here
    apply kept_bind _ (item, behind ++ more) _ _ (flow itemStops item behind here some_left)
    exact behind_item_kept whole other more item behind items after
      (fun rest less => shorter rest (Nat.lt_of_lt_of_le less fewer)) onward

theorem behind_colon_kept (behind : List Char) (value : Value) (after : List Char) (flow : FlowKept whole other more behind)
    (front : behindColon? whole behind = some (value, after)) (some_left : after ≠ []) :
    Kept (behindColon? other (behind ++ more)) (value, after ++ more) := by
  unfold behindColon? at front ⊢
  split at front
  · rename_i tail next
    cases front
    rw [spaces_skipped _ more ',' tail next]
    exact kept_some _
  · rename_i tail next
    cases front
    rw [spaces_skipped _ more '\x7d' tail next]
    exact kept_some _
  · rename_i no_comma no_end
    obtain ⟨c, tail, next⟩ := List.exists_cons_of_ne_nil (front_ink whole entryStops behind _ front)
    rw [spaces_skipped behind more c tail next]
    split
    · rename_i same
      cases same
      exact (no_comma tail next).elim
    · rename_i same
      cases same
      exact (no_end tail next).elim
    · exact flow entryStops value after front some_left

theorem behind_key_kept (behind : List Char) (value : Value) (after : List Char)
    (shorter : ∀ rest : List Char, rest.length < behind.length → FlowKept whole other more rest)
    (front : behindKey? whole behind = some (value, after)) (some_left : skipFlowSpaces after ≠ []) :
    Kept (behindKey? other (behind ++ more)) (value, after ++ more) := by
  unfold behindKey? at front ⊢
  have skipped := length_skipFlowSpaces_le behind
  split at front
  · rename_i rest colon
    rw [colon, List.length_cons] at skipped
    rw [spaces_skipped behind more ':' rest colon]
    apply behind_colon_kept whole other more rest value after (shorter rest skipped) front
    rintro rfl
    exact some_left rfl
  · rename_i no_colon
    cases front
    obtain ⟨c, tail, next⟩ := List.exists_cons_of_ne_nil some_left
    rw [spaces_skipped _ more c tail next]
    split
    · rename_i same
      cases same
      exact (no_colon tail next).elim
    · exact kept_some _

theorem behind_entry_kept (entries : Entries) (behind : List Char) (all : Entries) (after : List Char)
    (shorter : ∀ rest : List Char, rest.length < behind.length → EntriesKept whole other more rest)
    (front : behindMember? whole entries behind = some (all, after)) :
    Kept (behindMember? other entries (behind ++ more)) (all, after ++ more) := by
  unfold behindMember? at front ⊢
  have skipped := length_skipFlowSpaces_le behind
  split at front
  · rename_i rest next
    rw [next, List.length_cons] at skipped
    rw [spaces_skipped behind more ',' rest next]
    exact shorter rest skipped entries all after front
  · rename_i final next
    cases front
    rw [spaces_skipped behind more '\x7d' after next]
    exact kept_some _
  · cases front

theorem entries_kept (text : List Char) (flow : FlowKept whole other more text)
    (shorter : ∀ rest : List Char, rest.length < text.length →
      FlowKept whole other more rest ∧ EntriesKept whole other more rest) : EntriesKept whole other more text := by
  intro entries all after front
  by_cases closed : (skipFlowSpaces text).head? = some '\x7d'
  · obtain ⟨rest, start⟩ := List.head?_eq_some_iff.mp closed
    rw [entries_front_end whole text rest entries start] at front
    cases front
    rw [entries_front_end other _ _ _ (spaces_skipped text more '\x7d' _ start)]
    exact kept_some _
  · rw [entries_front_entry whole text entries closed] at front
    obtain ⟨⟨written, behind⟩, here, onward⟩ := Option.bind_eq_some_iff.mp front
    obtain ⟨⟨value, rest⟩, held, last⟩ := Option.bind_eq_some_iff.mp onward
    obtain ⟨key, named, final⟩ := Option.bind_eq_some_iff.mp last
    rw [entries_front_entry other _ _ (spaces_skipped_head text more (front_ink whole _ text _ here) ▸ closed)]
    have some_left : skipFlowSpaces rest ≠ [] := by
      intro nothing
      simp [behindMember?, nothing] at final
    have fewer := front_shorter whole _ text written behind here
    have less := behind_key_shorter whole behind value rest held
    have ahead : behind ≠ [] := by
      rintro rfl
      cases held
      exact some_left rfl
    apply kept_bind _ (written, behind ++ more) _ _ (flow keyStops written behind here ahead)
    apply kept_bind _ (value, rest ++ more)
    · exact behind_key_kept whole other more behind value rest
        (fun short fit => (shorter short (Nat.lt_of_lt_of_le fit fewer)).1) held some_left
    · rw [named]
      exact behind_entry_kept whole other more _ rest all after
        (fun short fit => (shorter short (Nat.lt_of_lt_of_le fit (Nat.le_trans less fewer))).2) final

-- Once it is closed, a value in flow style does not depend on what stands behind it.
theorem fronts_kept (text : List Char) :
    FlowKept whole other more text ∧ ItemsKept whole other more text ∧ EntriesKept whole other more text := by
  induction size : text.length using Nat.strongRecOn generalizing text with
  | _ size ih =>
      subst size
      have shorter (rest : List Char) (less : rest.length < text.length) := ih rest.length less rest rfl
      have flow := flow_kept whole other more text shorter
      refine ⟨flow, items_kept whole other more text flow fun rest less => (shorter rest less).2.1, ?_⟩
      exact entries_kept whole other more text flow fun rest less => ⟨(shorter rest less).1, (shorter rest less).2.2⟩

end Longer

end PipelineLint.Document
