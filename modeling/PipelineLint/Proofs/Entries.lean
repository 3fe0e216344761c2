import PipelineLint.Proofs.Stretches

set_option autoImplicit false

namespace PipelineLint.Repair

open Expression

theorem word_is_key (c : Char) (word : Text.isWord c = true) : isKeyCharacter c = true := by
  simp [isKeyCharacter, word]

theorem name_start_not_gap (c : Char) (starts : Text.isNameStart c = true) : isGap c = false := by
  simp [isGap, Text.name_start_ne c ' ' starts (by decide), Text.name_start_ne c '\t' starts (by decide)]

def colonValue? : List Char → Option (List Char)
  | ':' :: value => if value.head?.all isGap then some (value.dropWhile isGap) else none
  | _ => none

def valueBehind? (text : List Char) : Option (List Char) :=
  colonValue? ((text.dropWhile isKeyCharacter).dropWhile isGap)

theorem plain_entry_cons (c : Char) (rest : List Char) (starts : Text.isNameStart c = true) :
    plainEntry? (c :: rest) = (valueBehind? rest).map fun value => (c :: rest.takeWhile isKeyCharacter, value) := by
  unfold plainEntry? valueBehind?
  simp only
  rw [if_pos starts]
  generalize (rest.dropWhile isKeyCharacter).dropWhile isGap = left
  cases left with
  | nil => rfl
  | cons d left =>
      by_cases colon : d = ':'
      · subst colon
        simp only [colonValue?]
        split <;> rfl
      · simp [colonValue?, colon]

theorem colon_value_other (c : Char) (rest : List Char) (other : c ≠ ':') : colonValue? (c :: rest) = none := by
  simp [colonValue?, other]

theorem value_behind_word (word tail : List Char) (letters : ∀ c ∈ word, isKeyCharacter c = true) (behind : CallTail tail) :
    valueBehind? (word ++ tail) = none := by
  have ends : tail.dropWhile isKeyCharacter = tail := by
    cases tail with
    | nil => rfl
    | cons c tail => simp [behind.ends c rfl]
  unfold valueBehind?
  rw [List.dropWhile_append_of_pos letters, ends]
  cases left : tail.dropWhile isGap with
  | nil => rfl
  | cons c rest =>
      refine colon_value_other c rest ?_
      rintro rfl
      exact behind.no_key (by rw [left]; rfl)

theorem value_behind_call (before tail : List Char) (behind : CallTail tail) :
    ∃ value : Option (List Char), (∀ kept, value = some kept → kept.length ≤ before.length) ∧
      ∀ name, Text.isIdentifier name = true → valueBehind? (before ++ (name ++ tail)) = value.map (· ++ (name ++ tail)) ∧
        (value.isSome = true → (before ++ (name ++ tail)).takeWhile isKeyCharacter = before.takeWhile isKeyCharacter) := by
  rcases Text.run_or_stop isKeyCharacter before with key | ⟨k, member, stop⟩
  · refine ⟨none, by simp, fun name identifier => ⟨?_, by simp⟩⟩
    have letters : ∀ c ∈ before ++ name, isKeyCharacter c = true := by
      intro c member
      rcases List.mem_append.mp member with member | member
      · exact key c member
      · exact word_is_key c (Text.identifier_words name identifier c member)
    rw [← List.append_assoc, value_behind_word _ tail letters behind]
    rfl
  · have run (rest : List Char) := Text.run_append isKeyCharacter before rest k member stop
    have short := (List.dropWhile_sublist (l := before) isKeyCharacter).length_le
    have unfolded (rest : List Char) :
        valueBehind? (before ++ rest) = colonValue? ((before.dropWhile isKeyCharacter ++ rest).dropWhile isGap) := by
      rw [valueBehind?, (run rest).2]
    rcases Text.run_or_stop isGap (before.dropWhile isKeyCharacter) with gaps | ⟨g, inside, solid⟩
    · refine ⟨none, by simp, fun name identifier => ⟨?_, by simp⟩⟩
      obtain ⟨c, letters, rfl, starts, -⟩ := Text.identifier_cases name identifier
      rw [unfolded, List.dropWhile_append_of_pos gaps, List.cons_append,
        List.dropWhile_cons_of_neg (by simp [name_start_not_gap c starts])]
      exact colon_value_other c _ (Text.name_start_ne c ':' starts (by decide))
    · obtain ⟨first, value, left, -⟩ := Text.run_stops isGap _ g inside solid
      have shorter := (List.dropWhile_sublist (l := before.dropWhile isKeyCharacter) isGap).length_le
      rw [left, List.length_cons] at shorter
      have shown (rest : List Char) : valueBehind? (before ++ rest) = colonValue? (first :: (value ++ rest)) := by
        rw [unfolded, (Text.run_append isGap _ rest g inside solid).2, left]
        rfl
      by_cases colon : first = ':' ∧ ∃ d later, value = d :: later ∧ isGap d = true
      · obtain ⟨rfl, d, later, rfl, gap⟩ := colon
        have shortest := (List.dropWhile_sublist (l := d :: later) isGap).length_le
        refine ⟨some ((d :: later).dropWhile isGap), ?_, fun name identifier => ⟨?_, fun _ => (run _).1⟩⟩
        · intro kept same
          rw [← Option.some.inj same]
          omega
        · obtain ⟨c, letters, rfl, starts, -⟩ := Text.identifier_cases name identifier
          rw [shown]
          simp only [List.cons_append, colonValue?, List.head?_cons, Option.all_some, gap, if_true, Option.map_some]
          exact congrArg some (Text.run_before isGap (d :: later) (letters ++ tail) c (name_start_not_gap c starts)).2
      · refine ⟨none, by simp, fun name identifier => ⟨?_, by simp⟩⟩
        obtain ⟨c, letters, rfl, starts, -⟩ := Text.identifier_cases name identifier
        rw [shown]
        by_cases opens : first = ':'
        · subst opens
          have no_gap := name_start_not_gap c starts
          cases value with
          | nil => simp [colonValue?, no_gap]
          | cons d later =>
              have solid_head : isGap d = false := by
                cases gap : isGap d with
                | false => rfl
                | true => exact absurd ⟨rfl, d, later, rfl, gap⟩ colon
              simp [colonValue?, solid_head]
        · exact colon_value_other first _ opens

theorem plain_entry_call (before tail : List Char) (behind : CallTail tail) :
    ∃ entry : Option (List Char × List Char), (∀ key value, entry = some (key, value) → value.length ≤ before.length) ∧
      ∀ name, Text.isIdentifier name = true →
        plainEntry? (before ++ (name ++ tail)) = entry.map fun (key, value) => (key, value ++ (name ++ tail)) := by
  cases before with
  | nil =>
      refine ⟨none, by simp, fun name identifier => ?_⟩
      have words := Text.identifier_words name identifier
      obtain ⟨c, letters, rfl, starts, -⟩ := Text.identifier_cases name identifier
      have keys : ∀ d ∈ letters, isKeyCharacter d = true := fun d member =>
        word_is_key d (words d (List.mem_cons_of_mem _ member))
      rw [List.nil_append, List.cons_append, plain_entry_cons c _ starts, value_behind_word letters tail keys behind]
      rfl
  | cons first before =>
      by_cases starts : Text.isNameStart first = true
      · obtain ⟨value, short, same⟩ := value_behind_call before tail behind
        refine ⟨value.map fun kept => (first :: before.takeWhile isKeyCharacter, kept), ?_, fun name identifier => ?_⟩
        · intro key kept found
          obtain ⟨value, rfl, pair⟩ := Option.map_eq_some_iff.mp found
          cases pair
          exact Nat.le_succ_of_le (short _ rfl)
        · obtain ⟨behind_key, run⟩ := same name identifier
          rw [List.cons_append, plain_entry_cons first _ starts, behind_key]
          cases value with
          | none => rfl
          | some kept =>
              rw [run rfl]
              rfl
      · refine ⟨none, by simp, fun name identifier => ?_⟩
        simp [ plainEntry?, starts]

theorem opens_block_before (value rest other : List Char) (c d : Char) (starts : Text.isNameStart c = true)
    (also : Text.isNameStart d = true) : opensBlock (value ++ c :: rest) = opensBlock (value ++ d :: other) := by
  have plain (e : Char) (name : Text.isNameStart e = true) : Text.isBlank e = false ∧ e ≠ '#' ∧ e ≠ '|' ∧ e ≠ '>' ∧
      (e = '-' || e = '+' || e.isDigit) = false :=
    ⟨Text.word_not_blank e (Text.isWord_of_isNameStart name), Text.name_start_ne e '#' name (by decide),
      Text.name_start_ne e '|' name (by decide), Text.name_start_ne e '>' name (by decide),
      by simp [Text.name_start_ne e '-' name (by decide), Text.name_start_ne e '+' name (by decide),
        Text.name_start_not_digit e name]⟩
  obtain ⟨c_blank, c_mark, c_bar, c_fold, c_modifier⟩ := plain c starts
  obtain ⟨d_blank, d_mark, d_bar, d_fold, d_modifier⟩ := plain d also
  cases value with
  | nil => simp [opensBlock, c_bar, c_fold, d_bar, d_fold]
  | cons style value =>
      simp only [List.cons_append, opensBlock]
      rw [(Text.run_before _ value rest c c_modifier).2, (Text.run_before _ value other d d_modifier).2,
        (Text.run_before _ _ rest c c_blank).2, (Text.run_before _ _ other d d_blank).2]
      generalize (value.dropWhile fun e => e = '-' || e = '+' || e.isDigit).dropWhile Text.isBlank = left
      cases left with
      | nil => simp [c_mark, d_mark]
      | cons e left => rfl

def formStretches (form : Option (Form × Nat)) (index : Nat) (line : List Char) : List Stretch :=
  match form with
  | none => []
  | some (form, start) => form.stretches index line start

def aboveEntry (column : Nat) (levels : List (Nat × Level)) : List (Nat × Level) :=
  levels.dropWhile fun level => decide (column ≤ level.1)

def entrySite (levels : List (Nat × Level)) (index column : Nat) (key : String) : KeySite :=
  ⟨index, column, key, (aboveEntry column levels).map Prod.snd⟩

def entryIsExpression (levels : List (Nat × Level)) (column : Nat) (key : String) : Bool :=
  isExpressionKey key ((aboveEntry column levels).map Prod.snd)

def entryPlace (levels : List (Nat × Level)) (column : Nat) (key : String) (opens : Bool) : Place :=
  ⟨(column, .key key) :: aboveEntry column levels,
    if opens then some ⟨column, entryIsExpression levels column key⟩ else none⟩

def valueForm (opens isExpression : Bool) (start : Nat) : Option (Form × Nat) :=
  if opens then none else some (if isExpression then .scalar else .interpolated, start)

theorem visit_entry_key (levels : List (Nat × Level)) (index column start : Nat) (line key value : List Char)
    (entry : plainEntry? (line.drop column) = some (key, value))
    (place : column + ((line.drop column).length - value.length) = start) (inked : Text.allBlank (line.drop start) = false) :
    visitEntry levels index line column =
      (entryPlace levels column (String.ofList key) (opensBlock value),
        ⟨[entrySite levels index column (String.ofList key)],
          formStretches (valueForm (opensBlock value) (entryIsExpression levels column (String.ofList key)) start)
            index line⟩) := by
  unfold visitEntry
  simp only
  rw [entry]
  simp only
  rw [place]
  cases opensBlock value with
  | true => rfl
  | false =>
      simp only [Bool.false_eq_true, if_false, valueStretches, inked, valueForm]
      show (_, Sites.mk _ (if entryIsExpression levels column (String.ofList key) = true then _ else _)) = _
      cases entryIsExpression levels column (String.ofList key) <;> rfl

end PipelineLint.Repair
