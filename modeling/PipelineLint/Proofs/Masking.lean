import PipelineLint.Expression.Mask
import PipelineLint.Text.Word

set_option autoImplicit false

namespace PipelineLint.Expression

-- A place in front of a word that lies in code, whatever word stands there.
def Cuts (region : Region) (before masked : List Char) : Prop :=
  before.length = masked.length ∧
    ∀ c rest, Text.isWord c = true → maskFrom region (before ++ c :: rest) = masked ++ c :: maskFrom .code rest

theorem word_ne (c other : Char) (word : Text.isWord c = true) (plain : Text.isWord other = false) : c ≠ other := by
  intro same
  rw [same, plain] at word
  cases word

theorem mask_code (c : Char) (rest : List Char) (quote : c ≠ '"') (mark : c ≠ '#') :
    maskFrom .code (c :: rest) = c :: maskFrom .code rest := by
  rw [maskFrom, if_neg quote, if_neg mark]
  intro _ equal
  exact absurd equal quote

theorem mask_word (c : Char) (rest : List Char) (word : Text.isWord c = true) :
    maskFrom .code (c :: rest) = c :: maskFrom .code rest :=
  mask_code c rest (word_ne c '"' word (by decide)) (word_ne c '#' word (by decide))

theorem cuts_code_nil : Cuts .code [] [] :=
  ⟨rfl, mask_word⟩

theorem cuts_append (region next : Region) (seen shown before masked : List Char) (lengths : seen.length = shown.length)
    (step : ∀ c rest, Text.isWord c = true →
      maskFrom region (seen ++ (before ++ c :: rest)) = shown ++ maskFrom next (before ++ c :: rest))
    (cuts : Cuts next before masked) : Cuts region (seen ++ before) (shown ++ masked) := by
  refine ⟨by rw [List.length_append, List.length_append, lengths, cuts.1], ?_⟩
  intro c rest word
  rw [List.append_assoc, step c rest word, cuts.2 c rest word, List.append_assoc]

theorem no_two_quotes (before rest other : List Char) (c d : Char) (word : Text.isWord d = true)
    (single : ∀ later, before ++ c :: rest ≠ '"' :: '"' :: later) :
    ∀ later, before ++ d :: other ≠ '"' :: '"' :: later := by
  intro later same
  match before with
  | [] => exact word_ne d '"' word (by decide) (List.cons.inj same).1
  | [first] => exact word_ne d '"' word (by decide) (List.cons.inj (List.cons.inj same).2).1
  | first :: second :: more =>
      obtain ⟨rfl, tail⟩ := List.cons.inj same
      obtain ⟨rfl, -⟩ := List.cons.inj tail
      exact single (more ++ c :: rest) rfl

theorem word_behind_plain (plain tail masked shown : List Char) (c : Char) (word : Text.isWord c = true)
    (outside : plain.any Text.isWord = false) (same : plain ++ tail = masked ++ c :: shown) :
    ∃ later, masked = plain ++ later ∧ tail = later ++ c :: shown := by
  induction plain generalizing masked with
  | nil => exact ⟨masked, rfl, same⟩
  | cons first plain ih =>
      rw [List.any_cons, Bool.or_eq_false_iff] at outside
      cases masked with
      | nil =>
          obtain ⟨rfl, -⟩ := List.cons.inj same
          exact absurd rfl (word_ne first first word outside.1)
      | cons other masked =>
          obtain ⟨rfl, tails⟩ := List.cons.inj same
          obtain ⟨later, rfl, rest⟩ := ih masked outside.2 tails
          exact ⟨later, rfl, rest⟩

theorem cut_behind (region next : Region) (seen hidden text masked shown : List Char) (c : Char)
    (word : Text.isWord c = true) (lengths : seen.length = hidden.length) (outside : hidden.any Text.isWord = false)
    (step : ∀ before rest, text = before ++ c :: rest → ∀ d other, Text.isWord d = true →
      maskFrom region (seen ++ (before ++ d :: other)) = hidden ++ maskFrom next (before ++ d :: other))
    (mask : hidden ++ maskFrom next text = masked ++ c :: shown)
    (cut : ∀ later, maskFrom next text = later ++ c :: shown →
      ∃ before rest, text = before ++ c :: rest ∧ maskFrom .code rest = shown ∧ Cuts next before later) :
    ∃ before rest, seen ++ text = before ++ c :: rest ∧ maskFrom .code rest = shown ∧ Cuts region before masked := by
  obtain ⟨later, rfl, tail⟩ := word_behind_plain hidden _ masked shown c word outside mask
  obtain ⟨before, rest, whole, after, cuts⟩ := cut later tail
  refine ⟨seen ++ before, rest, by rw [whole, List.append_assoc], after, ?_⟩
  exact cuts_append region next seen hidden before later lengths (step before rest whole) cuts

theorem mask_cut (region : Region) (text masked shown : List Char) (c : Char) (word : Text.isWord c = true)
    (mask : maskFrom region text = masked ++ c :: shown) :
    ∃ before rest, text = before ++ c :: rest ∧ maskFrom .code rest = shown ∧ Cuts region before masked := by
  fun_induction maskFrom region text generalizing masked with
  | case1 => simp at mask
  | case2 rest ih =>
      exact cut_behind .code .tripleLiteral ['"', '"', '"'] ['"', '"', '"'] rest masked shown c word rfl (by decide)
        (fun _ _ _ _ _ _ => by simp [maskFrom]) mask ih
  | case3 rest single ih =>
      refine cut_behind .code .literal ['"'] ['"'] rest masked shown c word rfl (by decide) ?_ mask ih
      rintro before rest rfl d other letter
      have alone := no_two_quotes before rest other c d letter (fun later => single later rfl)
      simp only [List.singleton_append]
      rw [maskFrom, if_pos rfl]
      exact fun later _ => alone later
  | case4 rest _ mark ih =>
      exact cut_behind .code .comment ['#'] [' '] rest masked shown c word rfl (by decide)
        (fun _ _ _ _ _ _ => by simp [maskFrom]) mask ih
  | case5 first rest _ quote mark ih =>
      -- The first character may be the word itself.
      cases masked with
      | nil =>
          obtain ⟨rfl, rfl⟩ := List.cons.inj mask
          exact ⟨[], rest, rfl, rfl, cuts_code_nil⟩
      | cons other masked =>
          obtain ⟨rfl, tail⟩ := List.cons.inj mask
          obtain ⟨before, rest, rfl, after, cuts⟩ := ih masked tail
          exact ⟨first :: before, rest, rfl, after,
            cuts_append .code .code [first] [first] before masked rfl (fun _ _ _ => mask_code first _ quote mark) cuts⟩
  | case6 =>
      obtain ⟨later, -, tail⟩ := word_behind_plain [' '] _ masked shown c word (by decide) mask
      simp at tail
  | case7 escaped rest ih =>
      exact cut_behind .literal .literal ['\\', escaped] [' ', ' '] rest masked shown c word rfl (by decide)
        (fun _ _ _ _ _ _ => by simp [maskFrom]) mask ih
  | case8 first rest _ _ closes ih =>
      have plain : [first].any Text.isWord = false := by
        rcases Bool.or_eq_true_iff.mp closes with same | same <;> rw [of_decide_eq_true same] <;> decide
      refine cut_behind .literal .code [first] [first] rest masked shown c word rfl plain ?_ mask ih
      intro before rest _ d other _
      simp only [List.singleton_append]
      rw [maskFrom, if_pos closes]
      all_goals grind
  | case9 first rest alone pair closes ih =>
      refine cut_behind .literal .literal [first] [' '] rest masked shown c word rfl (by decide) ?_ mask ih
      rintro before rest rfl d other _
      have plain : first ≠ '\\' := by
        intro same
        cases before with
        | nil => exact pair c rest same rfl
        | cons second before => exact pair second (before ++ c :: rest) same rfl
      simp only [List.singleton_append]
      rw [maskFrom, if_neg closes]
      all_goals grind
  | case10 rest ih =>
      exact cut_behind .tripleLiteral .code ['"', '"', '"'] ['"', '"', '"'] rest masked shown c word rfl (by decide)
        (fun _ _ _ _ _ _ => by simp [maskFrom]) mask ih
  | case11 first rest single ih =>
      have plain : [if first = '\n' then '\n' else ' '].any Text.isWord = false := by
        split <;> decide
      refine cut_behind .tripleLiteral .tripleLiteral [first] [if first = '\n' then '\n' else ' '] rest masked shown c word rfl
        plain ?_ mask ih
      rintro before rest rfl d other letter
      simp only [List.singleton_append]
      rw [maskFrom]
      intro later quote
      exact no_two_quotes before rest other c d letter (fun later => single later quote) later
  | case12 rest ih =>
      exact cut_behind .comment .code ['\n'] ['\n'] rest masked shown c word rfl (by decide)
        (fun _ _ _ _ _ _ => by simp [maskFrom]) mask ih
  | case13 first rest feed ih =>
      exact cut_behind .comment .comment [first] [' '] rest masked shown c word rfl (by decide)
        (fun _ _ _ _ _ _ => by simp [maskFrom, feed]) mask ih

theorem mask_words (word rest : List Char) (letters : ∀ c ∈ word, Text.isWord c = true) :
    maskFrom .code (word ++ rest) = word ++ maskFrom .code rest := by
  induction word with
  | nil => rfl
  | cons c word ih =>
      rw [List.cons_append, mask_word c _ (letters c List.mem_cons_self),
        ih fun d member => letters d (List.mem_cons_of_mem _ member)]
      rfl

theorem unmask_words (word text shown : List Char) (letters : ∀ c ∈ word, Text.isWord c = true)
    (mask : maskFrom .code text = word ++ shown) : ∃ rest, text = word ++ rest ∧ maskFrom .code rest = shown := by
  induction word generalizing text with
  | nil => exact ⟨text, rfl, mask⟩
  | cons c word ih =>
      obtain ⟨before, rest, rfl, after, cuts⟩ := mask_cut .code text [] (word ++ shown) c (letters c List.mem_cons_self) mask
      obtain ⟨behind, rfl, same⟩ := ih rest (fun d member => letters d (List.mem_cons_of_mem _ member)) after
      rw [List.length_eq_zero_iff.mp cuts.1]
      exact ⟨behind, rfl, same⟩

end PipelineLint.Expression
