import PipelineLint.Expression.Mask
import PipelineLint.Proofs.Masking
import PipelineLint.Proofs.Runs

set_option autoImplicit false

namespace PipelineLint.Expression

-- A literal says whether it is closed. One that is not goes on to the end of its line or of the expression.
inductive Lexeme where
  | code (c : Char)
  | literal (inner : List Char) (closed : Bool)
  | tripleLiteral (inner : List Char) (closed : Bool)
  | comment (inner : List Char)

def tripleQuote : List Char := ['"', '"', '"']

def Lexeme.written : Lexeme → List Char
  | .code c => [c]
  | .literal inner closed => '"' :: inner ++ if closed then ['"'] else []
  | .tripleLiteral inner closed => tripleQuote ++ inner ++ if closed then tripleQuote else []
  | .comment inner => '#' :: inner

-- What stands between the quotes of a literal of one line: a backslash takes the character behind it along.
inductive IsInner : List Char → Prop where
  | done : IsInner []
  | escape (c : Char) (rest : List Char) : IsInner rest → IsInner ('\\' :: c :: rest)
  | plain (c : Char) (rest : List Char) : c ≠ '"' → c ≠ '\n' → c ≠ '\\' → IsInner rest → IsInner (c :: rest)

def EndsLine (rest : List Char) : Prop :=
  ∀ c ∈ rest.head?, c = '\n'

-- Whether a lexeme is one in front of a text. An empty literal in front of a quote would open one of many lines, which ends with
-- the next three quotes. At the end of the expression a backslash may have no character behind it.
def Lexeme.Reads (rest : List Char) : Lexeme → Prop
  | .code c => c ≠ '"' ∧ c ≠ '#'
  | .literal inner true => IsInner inner ∧ ¬(inner = [] ∧ rest.head? = some '"')
  | .literal inner false => EndsLine rest ∧ (IsInner inner ∨ rest = [] ∧ ∃ front, IsInner front ∧ inner = front ++ ['\\'])
  | .tripleLiteral inner true => ¬tripleQuote <:+: inner ++ ['"', '"']
  | .tripleLiteral inner false => rest = [] ∧ ¬tripleQuote <:+: inner
  | .comment inner => '\n' ∉ inner ∧ EndsLine rest

inductive Lexed : List Lexeme → List Char → Prop where
  | done : Lexed [] []
  | next (lexeme : Lexeme) (lexemes : List Lexeme) (rest : List Char) : lexeme.Reads rest → Lexed lexemes rest →
      Lexed (lexeme :: lexemes) (lexeme.written ++ rest)

theorem lexed_written (lexemes : List Lexeme) (text : List Char) (lexed : Lexed lexemes text) :
    text = lexemes.flatMap Lexeme.written := by
  induction lexed with
  | done => rfl
  | next lexeme lexemes rest _ _ ih => rw [ih, List.flatMap_cons]

theorem lexed_behind (front back : List Lexeme) (text : List Char) (lexed : Lexed (front ++ back) text) :
    ∃ rest, text = front.flatMap Lexeme.written ++ rest ∧ Lexed back rest := by
  induction front generalizing text with
  | nil => exact ⟨text, rfl, lexed⟩
  | cons lexeme front ih =>
      cases lexed with
      | next _ _ rest _ behind =>
          obtain ⟨last, rfl, lexed⟩ := ih rest behind
          exact ⟨last, by simp, lexed⟩

theorem line_split (text : List Char) : ∃ inner rest, text = inner ++ rest ∧ '\n' ∉ inner ∧ EndsLine rest := by
  induction text with
  | nil => exact ⟨[], [], rfl, List.not_mem_nil, nofun⟩
  | cons c text ih =>
      by_cases feed : c = '\n'
      · exact ⟨[], c :: text, rfl, List.not_mem_nil, fun d head => (Option.some.inj head).symm.trans feed⟩
      · obtain ⟨inner, rest, rfl, inside, ends⟩ := ih
        exact ⟨c :: inner, rest, rfl, by simp [Ne.symm feed, inside], ends⟩

theorem inner_split : (text : List Char) → ∃ inner rest, text = inner ++ rest ∧ IsInner inner ∧
    (rest.head? = some '"' ∨ EndsLine rest ∨ rest = ['\\'])
  | [] => ⟨[], [], rfl, .done, .inr (.inl nofun)⟩
  | c :: text => by
      by_cases stops : c = '"' ∨ c = '\n'
      · refine ⟨[], c :: text, rfl, .done, ?_⟩
        rcases stops with rfl | rfl
        · exact .inl rfl
        · exact .inr (.inl fun d head => (Option.some.inj head).symm)
      · by_cases escape : c = '\\'
        · cases text with
          | nil => exact ⟨[], [c], rfl, .done, .inr (.inr (by rw [escape]))⟩
          | cons d text =>
              obtain ⟨inner, rest, rfl, reads, ends⟩ := inner_split text
              exact ⟨c :: d :: inner, rest, rfl, escape ▸ .escape d inner reads, ends⟩
        · obtain ⟨inner, rest, rfl, reads, ends⟩ := inner_split text
          exact ⟨c :: inner, rest, rfl, .plain c inner (stops ∘ .inl) (stops ∘ .inr) escape reads, ends⟩
termination_by text => text.length

theorem triple_split (text : List Char) :
    (∃ inner rest, text = inner ++ (tripleQuote ++ rest) ∧ ¬tripleQuote <:+: inner ++ ['"', '"']) ∨
      ¬tripleQuote <:+: text := by
  induction text with
  | nil => exact .inr (by decide)
  | cons c text ih =>
      by_cases here : tripleQuote <+: c :: text
      · obtain ⟨rest, same⟩ := here
        exact .inl ⟨[], rest, same.symm, by decide⟩
      · rcases ih with ⟨inner, rest, rfl, first⟩ | absent
        · refine .inl ⟨c :: inner, rest, rfl, fun early => ?_⟩
          rcases List.infix_cons_iff.mp early with front | later
          · refine here (front.trans ?_)
            simp [tripleQuote]
          · exact first later
        · exact .inr fun early => (List.infix_cons_iff.mp early).elim here absent

theorem lexed_literal (text : List Char) (single : ∀ later, text ≠ '"' :: '"' :: later)
    (shorter : ∀ rest : List Char, rest.length ≤ text.length → ∃ lexemes, Lexed lexemes rest) :
    ∃ lexemes, Lexed lexemes ('"' :: text) := by
  obtain ⟨inner, rest, rfl, reads, quote | ends | dangling⟩ := inner_split text
  · obtain ⟨rest, rfl⟩ := List.head?_eq_some_iff.mp quote
    obtain ⟨lexemes, lexed⟩ := shorter rest (by simp; omega)
    refine ⟨.literal inner true :: lexemes, ?_⟩
    have closed := Lexed.next (.literal inner true) lexemes rest ⟨reads, ?_⟩ lexed
    · simpa [Lexeme.written] using closed
    · rintro ⟨rfl, second⟩
      obtain ⟨later, rfl⟩ := List.head?_eq_some_iff.mp second
      exact single later rfl
  · obtain ⟨lexemes, lexed⟩ := shorter rest (by simp)
    have cut := Lexed.next (.literal inner false) lexemes rest ⟨ends, .inl reads⟩ lexed
    exact ⟨_, by simpa [Lexeme.written] using cut⟩
  · have ends : (Lexeme.literal (inner ++ rest) false).Reads [] := ⟨nofun, .inr ⟨rfl, inner, reads, by rw [dangling]⟩⟩
    have unclosed := Lexed.next _ [] [] ends .done
    exact ⟨_, by simpa [Lexeme.written] using unclosed⟩

theorem lexed_triple (text : List Char)
    (shorter : ∀ rest : List Char, rest.length ≤ text.length → ∃ lexemes, Lexed lexemes rest) :
    ∃ lexemes, Lexed lexemes (tripleQuote ++ text) := by
  rcases triple_split text with ⟨inner, rest, rfl, first⟩ | absent
  · obtain ⟨lexemes, lexed⟩ := shorter rest (by simp; omega)
    have closed := Lexed.next (.tripleLiteral inner true) lexemes rest first lexed
    exact ⟨_, by simpa [Lexeme.written] using closed⟩
  · have unclosed := Lexed.next (.tripleLiteral text false) [] [] ⟨rfl, absent⟩ .done
    exact ⟨_, by simpa [Lexeme.written] using unclosed⟩

theorem lexed_total : (text : List Char) → ∃ lexemes, Lexed lexemes text
  | [] => ⟨[], .done⟩
  | c :: text => by
      have shorter (rest : List Char) (short : rest.length ≤ text.length) : ∃ lexemes, Lexed lexemes rest := lexed_total rest
      by_cases quote : c = '"'
      · subst quote
        by_cases double : ∃ later, text = '"' :: '"' :: later
        · obtain ⟨later, rfl⟩ := double
          exact lexed_triple later fun rest short => shorter rest (by simp; omega)
        · exact lexed_literal text (fun later same => double ⟨later, same⟩) shorter
      · by_cases mark : c = '#'
        · obtain ⟨inner, rest, rfl, inside, ends⟩ := line_split text
          obtain ⟨lexemes, lexed⟩ := shorter rest (by simp)
          subst mark
          exact ⟨_, .next (.comment inner) lexemes rest ⟨inside, ends⟩ lexed⟩
        · obtain ⟨lexemes, lexed⟩ := shorter text (Nat.le_refl _)
          exact ⟨_, .next (.code c) lexemes text ⟨quote, mark⟩ lexed⟩
termination_by text => text.length

def blanked (inner : List Char) : List Char :=
  inner.map fun _ => ' '

def veiled (inner : List Char) : List Char :=
  inner.map fun c => if c = '\n' then '\n' else ' '

def Lexeme.shown : Lexeme → List Char
  | .code c => [c]
  | .literal inner closed => '"' :: blanked inner ++ if closed then ['"'] else []
  | .tripleLiteral inner closed => tripleQuote ++ veiled inner ++ if closed then tripleQuote else []
  | .comment inner => ' ' :: blanked inner

theorem mask_literal_plain (c : Char) (rest : List Char) (quote : c ≠ '"') (feed : c ≠ '\n') (escape : c ≠ '\\') :
    maskFrom .literal (c :: rest) = ' ' :: maskFrom .literal rest := by
  rw [maskFrom]
  · simp [quote, feed]
  · exact fun same => absurd same escape
  · exact fun _ _ same => absurd same escape

theorem mask_inner (inner rest : List Char) (reads : IsInner inner) :
    maskFrom .literal (inner ++ rest) = blanked inner ++ maskFrom .literal rest := by
  induction reads with
  | done => rfl
  | escape c inner _ ih =>
      rw [List.cons_append, List.cons_append, maskFrom, ih]
      rfl
  | plain c inner quote feed escape _ ih =>
      rw [List.cons_append, mask_literal_plain c _ quote feed escape, ih]
      rfl

theorem mask_comment (inner rest : List Char) (inside : '\n' ∉ inner) :
    maskFrom .comment (inner ++ rest) = blanked inner ++ maskFrom .comment rest := by
  induction inner with
  | nil => rfl
  | cons c inner ih =>
      rw [List.mem_cons, not_or] at inside
      rw [List.cons_append, maskFrom, if_neg (Ne.symm inside.1), ih inside.2]
      rfl

theorem mask_line_end (region : Region) (rest : List Char) (ends : EndsLine rest)
    (short : region = .literal ∨ region = .comment) : maskFrom region rest = maskFrom .code rest := by
  cases rest with
  | nil => simp [maskFrom]
  | cons c rest =>
      obtain rfl := ends c rfl
      rcases short with rfl | rfl <;> simp [maskFrom, mask_code]

theorem mask_triple (inner rest : List Char) (inside : Text.NoneStarts tripleQuote inner rest) :
    maskFrom .tripleLiteral (inner ++ rest) = veiled inner ++ maskFrom .tripleLiteral rest := by
  induction inner with
  | nil => rfl
  | cons c inner ih =>
      have here := inside [] (c :: inner) rfl (by simp)
      rw [List.cons_append, maskFrom, ih (Text.none_starts_tail _ _ _ c inside)]
      · rfl
      · rintro later rfl same
        exact here ⟨later, by simp [tripleQuote, same]⟩

theorem mask_quote (text : List Char) (single : ∀ later, text ≠ '"' :: '"' :: later) :
    maskFrom .code ('"' :: text) = '"' :: maskFrom .literal text := by
  rw [maskFrom, if_pos rfl]
  exact fun later _ => single later

theorem inner_single (inner behind : List Char) (reads : IsInner inner)
    (alone : inner = [] → ∀ later, behind ≠ '"' :: '"' :: later) : ∀ later, inner ++ behind ≠ '"' :: '"' :: later := by
  intro later same
  cases reads with
  | done => exact alone rfl later same
  | escape => cases same
  | plain c _ quote => exact quote (List.cons.inj same).1

theorem mask_literal (inner rest : List Char) (closed : Bool) (reads : (Lexeme.literal inner closed).Reads rest) :
    maskFrom .code ((Lexeme.literal inner closed).written ++ rest) =
      (Lexeme.literal inner closed).shown ++ maskFrom .code rest := by
  cases closed with
  | true =>
      obtain ⟨reads, apart⟩ := reads
      have whole := mask_quote _ (inner_single inner ('"' :: rest) reads fun empty later same =>
        apart ⟨empty, by rw [(List.cons.inj same).2]; rfl⟩)
      rw [mask_inner inner _ reads] at whole
      simpa [Lexeme.written, Lexeme.shown, maskFrom] using whole
  | false =>
      obtain ⟨ends, reads | ⟨rfl, front, reads, rfl⟩⟩ := reads
      · have whole := mask_quote _ (inner_single inner rest reads fun _ later same => by
          cases ends '"' (by rw [same]; rfl))
        rw [mask_inner inner _ reads, mask_line_end .literal rest ends (.inl rfl)] at whole
        simpa [Lexeme.written, Lexeme.shown] using whole
      · have whole := mask_quote _ (inner_single front ['\\'] reads fun _ later same => by cases same)
        rw [mask_inner front _ reads] at whole
        simpa [Lexeme.written, Lexeme.shown, blanked, maskFrom] using whole

theorem mask_triple_literal (inner rest : List Char) (closed : Bool) (reads : (Lexeme.tripleLiteral inner closed).Reads rest) :
    maskFrom .code ((Lexeme.tripleLiteral inner closed).written ++ rest) =
      (Lexeme.tripleLiteral inner closed).shown ++ maskFrom .code rest := by
  cases closed with
  | true =>
      have veil := mask_triple inner _ (Text.none_starts_before tripleQuote inner rest reads)
      simpa [Lexeme.written, Lexeme.shown, tripleQuote, maskFrom] using veil
  | false =>
      obtain ⟨rfl, absent⟩ := reads
      have veil := mask_triple inner [] (Text.none_starts_end tripleQuote inner absent)
      simpa [Lexeme.written, Lexeme.shown, tripleQuote, maskFrom] using veil

theorem mask_lexed (lexemes : List Lexeme) (text : List Char) (lexed : Lexed lexemes text) :
    mask text = lexemes.flatMap Lexeme.shown := by
  unfold mask
  induction lexed with
  | done => rfl
  | next lexeme lexemes rest reads _ ih =>
      rw [List.flatMap_cons, ← ih]
      cases lexeme with
      | code c => exact mask_code c rest reads.1 reads.2
      | literal inner closed => exact mask_literal inner rest closed reads
      | tripleLiteral inner closed => exact mask_triple_literal inner rest closed reads
      | comment inner =>
          have mark : maskFrom .code ('#' :: (inner ++ rest)) = ' ' :: maskFrom .comment (inner ++ rest) := by simp [maskFrom]
          rw [mask_comment inner rest reads.1, mask_line_end .comment rest reads.2 (.inr rfl)] at mark
          exact mark

theorem shown_length (lexeme : Lexeme) : lexeme.shown.length = lexeme.written.length := by
  cases lexeme with
  | code c => rfl
  | literal inner closed => cases closed <;> simp [Lexeme.shown, Lexeme.written, blanked]
  | tripleLiteral inner closed => cases closed <;> simp [Lexeme.shown, Lexeme.written, veiled]
  | comment inner => simp [Lexeme.shown, Lexeme.written, blanked]

theorem shown_lengths (lexemes : List Lexeme) :
    (lexemes.flatMap Lexeme.shown).length = (lexemes.flatMap Lexeme.written).length := by
  simp only [List.length_flatMap, shown_length]

theorem shown_cases (lexeme : Lexeme) (c : Char) (member : c ∈ lexeme.shown) :
    lexeme = .code c ∨ c = '"' ∨ c = ' ' ∨ c = '\n' := by
  cases lexeme with
  | code d => exact .inl (by rw [List.mem_singleton.mp member])
  | literal inner closed => cases closed <;> simp [Lexeme.shown, blanked] at member <;> grind
  | tripleLiteral inner closed => cases closed <;> simp [Lexeme.shown, veiled, tripleQuote] at member <;> grind
  | comment inner => simp [Lexeme.shown, blanked] at member; grind

theorem shown_word (lexeme : Lexeme) (c : Char) (word : Text.isWord c = true) (member : c ∈ lexeme.shown) :
    lexeme = .code c := by
  rcases shown_cases lexeme c member with code | rfl | rfl | rfl
  · exact code
  · exact absurd rfl (word_ne '"' '"' word (by decide))
  · exact absurd rfl (word_ne ' ' ' ' word (by decide))
  · exact absurd rfl (word_ne '\n' '\n' word (by decide))

theorem shown_some (lexeme : Lexeme) : lexeme.shown ≠ [] := by
  cases lexeme <;> simp [Lexeme.shown, tripleQuote]

theorem code_shown (name : List Char) : (name.map Lexeme.code).flatMap Lexeme.shown = name := by
  induction name with
  | nil => rfl
  | cons c name ih => rw [List.map_cons, List.flatMap_cons, ih]; rfl

theorem code_written (name : List Char) : (name.map Lexeme.code).flatMap Lexeme.written = name := by
  induction name with
  | nil => rfl
  | cons c name ih => rw [List.map_cons, List.flatMap_cons, ih]; rfl

theorem word_lexemes (lexemes : List Lexeme) (pre name tail : List Char) (some_name : name ≠ [])
    (letters : ∀ c ∈ name, Text.isWord c = true) (shown : lexemes.flatMap Lexeme.shown = pre ++ (name ++ tail)) :
    ∃ front back, lexemes = front ++ (name.map .code ++ back) ∧ front.flatMap Lexeme.shown = pre ∧
      back.flatMap Lexeme.shown = tail := by
  induction name generalizing lexemes pre with
  | nil => exact absurd rfl some_name
  | cons c name ih =>
      obtain ⟨front, lexeme, back, first, last, rfl, inside, rfl, behind⟩ :=
        flat_map_split Lexeme.shown lexemes pre (name ++ tail) c shown
      obtain rfl := shown_word lexeme c (letters c List.mem_cons_self) (inside ▸ by simp)
      obtain ⟨rfl, rfl⟩ : first = [] ∧ last = [] := by
        cases first with
        | nil => exact ⟨rfl, (List.cons.inj inside).2.symm⟩
        | cons d first => simp [Lexeme.shown] at inside
      by_cases single : name = []
      · subst single
        exact ⟨front, back, rfl, by simp, behind.symm⟩
      · obtain ⟨between, back, rfl, nothing, same⟩ :=
          ih back [] single (fun d member => letters d (List.mem_cons_of_mem _ member)) behind.symm
        have no_lexemes : between = [] := by
          cases between with
          | nil => rfl
          | cons lexeme between => exact absurd (List.append_eq_nil_iff.mp nothing).1 (shown_some lexeme)
        exact ⟨front, back, by rw [no_lexemes]; rfl, by simp, same⟩

theorem written_last (front back : List Lexeme) (c : Char) (text : List Char) (word : Text.isWord c = true)
    (lexed : Lexed (front ++ .code c :: back) text)
    (outside : ∀ d ∈ (front.flatMap Lexeme.shown).getLast?, Text.isWord d = false) :
    ∀ d ∈ (front.flatMap Lexeme.written).getLast?, Text.isWord d = false := by
  rcases front.eq_nil_or_concat with rfl | ⟨front, lexeme, rfl⟩
  · exact nofun
  · obtain ⟨rest, -, behind⟩ := lexed_behind front (lexeme :: .code c :: back) text (by simpa using lexed)
    have same_line (ends : EndsLine (c :: back.flatMap Lexeme.written)) : False :=
      word_ne c '\n' word (by decide) (ends c rfl)
    have closing (ends : lexeme.written.getLast? = some '"') (d : Char)
        (last : d ∈ ((front.concat lexeme).flatMap Lexeme.written).getLast?) : Text.isWord d = false := by
      simp only [List.concat_eq_append, List.flatMap_append, List.flatMap_singleton, List.getLast?_append, ends,
        Option.some_or, Option.mem_some] at last
      rw [← last]
      decide
    cases behind with
    | next _ _ rest reads later =>
        rw [lexed_written _ rest later] at reads
        cases lexeme with
        | code d => simpa [Lexeme.shown, Lexeme.written] using outside
        | literal inner closed =>
            cases closed with
            | true => exact closing List.getLast?_concat
            | false => exact (same_line reads.1).elim
        | tripleLiteral inner closed =>
            cases closed with
            | true => exact closing (List.getLast?_append.trans rfl)
            | false => cases reads.1
        | comment inner => exact (same_line reads.2).elim

theorem written_head (lexemes : List Lexeme) (d : Char) (head : (lexemes.flatMap Lexeme.shown).head? = some d)
    (outside : Text.isWord d = false) : ∃ c, (lexemes.flatMap Lexeme.written).head? = some c ∧ Text.isWord c = false := by
  cases lexemes with
  | nil => cases head
  | cons lexeme lexemes =>
      cases lexeme with
      | code c => exact ⟨c, rfl, Option.some.inj head ▸ outside⟩
      | literal => exact ⟨'"', rfl, by decide⟩
      | tripleLiteral => exact ⟨'"', rfl, by decide⟩
      | comment => exact ⟨'#', rfl, by decide⟩

end PipelineLint.Expression
