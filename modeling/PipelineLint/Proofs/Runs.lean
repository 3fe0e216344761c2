import PipelineLint.Text.Blank
import PipelineLint.Text.Word

set_option autoImplicit false

namespace PipelineLint

-- What holds of each character of a text is decided along the text, and not along all characters that there are.
instance (priority := high) decideEach (holds : Char → Prop) [DecidablePred holds] (text : List Char) :
    Decidable (∀ c ∈ text, holds c) :=
  List.decidableBAll holds text

instance (priority := high) decideEachOf (holds : Char → Prop) [DecidablePred holds] (found : Option Char) :
    Decidable (∀ c ∈ found, holds c) :=
  Option.decidableForallMem found

-- What a reader with a bound on what is left takes off the front of a text, without the bound.
def frontOf {ε α : Type} {bound : List Char → Prop} (taken : Except ε (α × { rest : List Char // bound rest })) :
    Except ε (α × List Char) :=
  taken.map fun front => (front.1, front.2.1)

@[simp] theorem front_of_ok {ε α : Type} {bound : List Char → Prop} (value : α) (rest : { rest : List Char // bound rest }) :
    frontOf (.ok (value, rest) : Except ε _) = .ok (value, rest.1) := rfl

@[simp] theorem front_of_error {ε α : Type} {bound : List Char → Prop} (fault : ε) :
    frontOf (.error fault : Except ε (α × { rest : List Char // bound rest })) = .error fault := rfl

@[simp] theorem option_of_ok {ε α : Type} (value : α) : (.ok value : Except ε α).toOption = some value := rfl

@[simp] theorem option_of_error {ε α : Type} (fault : ε) : (.error fault : Except ε α).toOption = none := rfl

theorem append_split {α : Type} (first second front back : List α) (entry : α)
    (split : first ++ second = front ++ entry :: back) :
    (∃ others, front = first ++ others ∧ second = others ++ entry :: back) ∨
      ∃ others, first = front ++ entry :: others ∧ back = others ++ second := by
  rcases List.append_eq_append_iff.mp split with ⟨others, before, after⟩ | ⟨others, before, after⟩
  · exact .inl ⟨others, before, after⟩
  · cases others with
    | nil => exact .inl ⟨[], by simpa using before.symm, by simpa using after.symm⟩
    | cons same others =>
        obtain ⟨rfl, tails⟩ := List.cons.inj after
        exact .inr ⟨others, before, tails⟩

theorem flat_map_split {α β : Type} (parts : α → List β) (whole : List α) (front back : List β) (entry : β)
    (split : whole.flatMap parts = front ++ entry :: back) :
    ∃ before part after first last, whole = before ++ part :: after ∧ parts part = first ++ entry :: last ∧
      front = before.flatMap parts ++ first ∧ back = last ++ after.flatMap parts := by
  induction whole generalizing front with
  | nil => simp at split
  | cons head whole ih =>
      rw [List.flatMap_cons] at split
      rcases append_split _ _ front back entry split with ⟨others, rfl, later⟩ | ⟨others, here, rfl⟩
      · obtain ⟨before, part, after, first, last, rfl, inside, rfl, rest⟩ := ih others later
        exact ⟨head :: before, part, after, first, last, rfl, inside, by simp, rest⟩
      · exact ⟨[], head, whole, front, others, rfl, here, rfl, rfl⟩

theorem drop_take_while {α : Type} (xs : List α) (test : α → Bool) : xs.drop (xs.takeWhile test).length = xs.dropWhile test := by
  have split := congrArg (List.drop (xs.takeWhile test).length) (List.takeWhile_append_dropWhile (p := test) (l := xs))
  rw [List.drop_left] at split
  exact split.symm

theorem Text.run_append (passes : Char → Bool) (text rest : List Char) (c : Char) (member : c ∈ text)
    (stop : passes c = false) :
    (text ++ rest).takeWhile passes = text.takeWhile passes ∧
      (text ++ rest).dropWhile passes = text.dropWhile passes ++ rest := by
  induction text with
  | nil => cases member
  | cons first text ih =>
      by_cases passed : passes first = true
      · have later : c ∈ text := by
          rcases List.mem_cons.mp member with rfl | later
          · rw [stop] at passed
            cases passed
          · exact later
        obtain ⟨taken, dropped⟩ := ih later
        exact ⟨by simp [passed, taken], by simp [passed, dropped]⟩
      · exact ⟨by simp [passed], by simp [passed]⟩

theorem Text.run_before (passes : Char → Bool) (text rest : List Char) (c : Char) (stop : passes c = false) :
    (text ++ c :: rest).takeWhile passes = text.takeWhile passes ∧
      (text ++ c :: rest).dropWhile passes = text.dropWhile passes ++ c :: rest := by
  induction text with
  | nil => exact ⟨by simp [stop], by simp [stop]⟩
  | cons first text ih =>
      cases passed : passes first with
      | true => exact ⟨by simp [passed, ih.1], by simp [passed, ih.2]⟩
      | false => exact ⟨by simp [passed], by simp [passed]⟩

theorem Text.run_or_stop (passes : Char → Bool) (text : List Char) :
    (∀ c ∈ text, passes c = true) ∨ ∃ c ∈ text, passes c = false := by
  by_cases every : ∀ c ∈ text, passes c = true
  · exact .inl every
  · exact .inr (by simpa using every)

theorem Text.run_stops (passes : Char → Bool) (text : List Char) (c : Char) (member : c ∈ text) (stop : passes c = false) :
    ∃ first rest, text.dropWhile passes = first :: rest ∧ passes first = false := by
  induction text with
  | nil => cases member
  | cons head text ih =>
      cases passed : passes head with
      | false => exact ⟨head, text, by simp [passed], passed⟩
      | true =>
          rcases List.mem_cons.mp member with rfl | later
          · rw [stop] at passed
            cases passed
          · obtain ⟨first, rest, dropped, stopped⟩ := ih later
            exact ⟨first, rest, by simp [passed, dropped], stopped⟩

def Text.NoneStarts (part inner rest : List Char) : Prop :=
  ∀ front back, inner = front ++ back → back ≠ [] → ¬part <+: back ++ rest

theorem Text.none_starts_end (part inner : List Char) (absent : ¬part <:+: inner) : NoneStarts part inner [] := by
  rintro front back rfl - early
  rw [List.append_nil] at early
  exact absent (early.isInfix.trans ⟨front, [], List.append_nil _⟩)

theorem Text.none_starts_before (part inner rest : List Char) (absent : ¬part <:+: inner ++ part.dropLast) :
    NoneStarts part inner (part ++ rest) := by
  rintro front back rfl some_back early
  have inside : back ++ part.dropLast <+: back ++ (part ++ rest) :=
    (List.prefix_append_right_inj back).mpr ((List.dropLast_prefix part).trans (List.prefix_append part rest))
  have within : part <+: back ++ part.dropLast := by
    refine List.prefix_of_prefix_length_le early inside ?_
    have := List.length_pos_iff.mpr some_back
    rw [List.length_append, List.length_dropLast]
    omega
  exact absent (within.isInfix.trans ⟨front, [], by simp⟩)

theorem Text.none_starts_tail (part inner rest : List Char) (c : Char) (none : NoneStarts part (c :: inner) rest) :
    NoneStarts part inner rest :=
  fun front back same => none (c :: front) back (by rw [same, List.cons_append])

theorem Text.trim_right_append (text tail : List Char) (ink : trimRight tail ≠ []) :
    trimRight (text ++ tail) = text ++ trimRight tail := by
  induction text with
  | nil => rfl
  | cons c text ih =>
      have kept : dropTrailing isBlank (text ++ tail) ≠ [] := by
        show trimRight (text ++ tail) ≠ []
        rw [ih]
        simp [ink]
      show dropTrailing isBlank (c :: (text ++ tail)) = _
      rw [dropTrailing_cons_of_ne_nil c kept, List.cons_append, ← ih]
      rfl

theorem Text.name_start_ne (first other : Char) (starts : isNameStart first = true) (plain : isNameStart other = false) :
    first ≠ other := by
  intro same
  rw [same, plain] at starts
  cases starts

theorem Text.name_start_small (c : Char) (starts : isNameStart c = true) : c.toNat < 128 := by
  by_cases score : c = '_'
  · rw [score]
    decide
  · simp only [isNameStart, Bool.or_eq_true, beq_iff_eq, score, or_false] at starts
    unfold Char.isAlpha Char.isUpper Char.isLower at starts
    simp only [Bool.and_eq_true, Bool.or_eq_true, decide_eq_true_eq, UInt32.le_iff_toNat_le] at starts
    simp at starts
    omega

theorem Text.name_start_not_digit (c : Char) (starts : isNameStart c = true) : c.isDigit = false := by
  cases digit : c.isDigit with
  | false => rfl
  | true =>
      have score : c ≠ '_' := by
        rintro rfl
        cases digit
      simp only [isNameStart, Bool.or_eq_true, beq_iff_eq, score, or_false] at starts
      unfold Char.isDigit at digit
      unfold Char.isAlpha Char.isUpper Char.isLower at starts
      simp only [Bool.and_eq_true, Bool.or_eq_true, decide_eq_true_eq, UInt32.le_iff_toNat_le, ge_iff_le] at digit starts
      simp at digit starts
      omega

theorem Text.blank_not_word (c : Char) (blank : isBlank c = true) : isWord c = false := by
  have codes : c.toNat ∈ [9, 10, 11, 12, 13, 28, 29, 30, 31, 32, 133, 160, 5760, 8192, 8193, 8194, 8195, 8196, 8197,
      8198, 8199, 8200, 8201, 8202, 8232, 8233, 8239, 8287, 12288] := by
    simp only [isBlank, Bool.or_eq_true, Bool.and_eq_true, decide_eq_true_eq, beq_iff_eq] at blank
    simp only [List.mem_cons, List.not_mem_nil, or_false]
    omega
  have outside : ∀ code ∈ [9, 10, 11, 12, 13, 28, 29, 30, 31, 32, 133, 160, 5760, 8192, 8193, 8194, 8195, 8196, 8197,
      8198, 8199, 8200, 8201, 8202, 8232, 8233, 8239, 8287, 12288], isWord (Char.ofNat code) = false := by
    decide +kernel
  rw [← Char.ofNat_toNat c]
  exact outside c.toNat codes

theorem Text.word_not_blank (c : Char) (word : isWord c = true) : isBlank c = false := by
  cases blank : isBlank c with
  | false => rfl
  | true =>
      rw [blank_not_word c blank] at word
      cases word

theorem Text.spaces_blank (count : Nat) : ∀ b ∈ List.replicate count ' ', isBlank b = true := by
  intro b member
  rw [List.eq_of_mem_replicate member]
  rfl

def Text.isIdentifier : List Char → Bool
  | [] => false
  | c :: rest => isNameStart c && rest.all isWord

theorem Text.identifier_cases (name : List Char) (identifier : isIdentifier name = true) :
    ∃ first rest, name = first :: rest ∧ isNameStart first = true ∧ ∀ c ∈ rest, isWord c = true := by
  cases name with
  | nil => cases identifier
  | cons first rest =>
      simp only [isIdentifier, Bool.and_eq_true, List.all_eq_true] at identifier
      exact ⟨first, rest, rfl, identifier⟩

theorem Text.identifier_words (name : List Char) (identifier : isIdentifier name = true) :
    ∀ c ∈ name, isWord c = true := by
  obtain ⟨first, rest, rfl, starts, words⟩ := identifier_cases name identifier
  exact List.forall_mem_cons.mpr ⟨isWord_of_isNameStart starts, words⟩

end PipelineLint
