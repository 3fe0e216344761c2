import Mathlib.Data.List.Forall2
import PipelineLint.Proofs.Lexemes

set_option autoImplicit false

namespace PipelineLint.Expression

def Shows (shown c : Char) : Prop :=
  shown = c ∨ shown = ' '

theorem mask_shows (region : Region) (text : List Char) : List.Forall₂ Shows (maskFrom region text) text := by
  have kept {shown text : List Char} (c : Char) (rest : List.Forall₂ Shows shown text) :
      List.Forall₂ Shows (c :: shown) (c :: text) := .cons (.inl rfl) rest
  have hidden {shown text : List Char} (c : Char) (rest : List.Forall₂ Shows shown text) :
      List.Forall₂ Shows (' ' :: shown) (c :: text) := .cons (.inr rfl) rest
  fun_induction maskFrom region text with
  | case1 => exact .nil
  | case2 rest ih => exact kept _ (kept _ (kept _ ih))
  | case3 rest no_triple ih => exact kept _ ih
  | case4 rest no_triple no_quote ih => exact hidden _ ih
  | case5 c rest no_triple no_quote no_mark ih => exact kept _ ih
  | case6 => exact hidden _ .nil
  | case7 c rest ih => exact hidden _ (hidden _ ih)
  | case8 c rest no_end no_escape stop ih => exact kept _ ih
  | case9 c rest no_end no_escape no_stop ih => exact hidden _ ih
  | case10 rest ih => exact kept _ (kept _ (kept _ ih))
  | case11 c rest no_triple ih =>
      by_cases feed : c = '\n'
      · rw [if_pos feed, feed]
        exact kept _ ih
      · rw [if_neg feed]
        exact hidden _ ih
  | case12 rest ih => exact kept _ ih
  | case13 c rest no_feed ih => exact hidden _ ih

theorem shows_quote {shown c : Char} (shows : Shows shown c) (quote : shown = '"') : c = '"' := by
  rcases shows with same | blank
  · exact same.symm.trans quote
  · exact absurd (quote.symm.trans blank) (by decide)

theorem two_quotes_shown (region : Region) (text later : List Char) (shown : maskFrom region text = '"' :: '"' :: later) :
    ∃ rest, text = '"' :: '"' :: rest := by
  have shows := mask_shows region text
  rw [shown] at shows
  cases shows with
  | cons first shows =>
      cases shows with
      | cons second shows => exact ⟨_, by rw [shows_quote first rfl, shows_quote second rfl]⟩

-- A comment is shown as blanks of code; what a mask shows of anything else belongs to the same region.
def Region.shown : Region → Region
  | .comment => .code
  | region => region

theorem mask_literal_blank (rest : List Char) : maskFrom .literal (' ' :: rest) = ' ' :: maskFrom .literal rest :=
  mask_literal_plain ' ' rest (by decide) (by decide) (by decide)

theorem mask_literal_stop (c : Char) (rest : List Char) (stop : c = '"' ∨ c = '\n') :
    maskFrom .literal (c :: rest) = c :: maskFrom .code rest := by
  rcases stop with rfl | rfl <;> simp [maskFrom]

theorem mask_from_again (region : Region) (text : List Char) :
    maskFrom region.shown (maskFrom region text) = maskFrom region text := by
  fun_induction maskFrom region text with
  | case1 => simp [maskFrom]
  | case2 rest ih =>
      simp only [Region.shown] at ih ⊢
      rw [maskFrom, ih]
  | case3 rest no_triple ih =>
      have single (later : List Char) : maskFrom .literal rest ≠ '"' :: '"' :: later := fun shown => by
        obtain ⟨rest, rfl⟩ := two_quotes_shown .literal _ later shown
        exact no_triple rest rfl rfl
      exact (mask_quote _ single).trans (congrArg _ ih)
  | case4 rest no_triple no_quote ih => exact (mask_code ' ' _ (by decide) (by decide)).trans (congrArg _ ih)
  | case5 c rest no_triple no_quote no_mark ih => exact (mask_code c _ no_quote no_mark).trans (congrArg _ ih)
  | case6 => rfl
  | case7 c rest ih =>
      simp only [Region.shown] at ih ⊢
      rw [mask_literal_blank, mask_literal_blank, ih]
  | case8 c rest no_end no_escape stop ih =>
      simp only [Bool.or_eq_true, decide_eq_true_eq] at stop
      exact (mask_literal_stop c _ stop).trans (congrArg _ ih)
  | case9 c rest no_end no_escape no_stop ih =>
      simp only [Region.shown] at ih ⊢
      rw [mask_literal_blank, ih]
  | case10 rest ih =>
      simp only [Region.shown] at ih ⊢
      rw [maskFrom, ih]
  | case11 c rest no_triple ih =>
      simp only [Region.shown] at ih ⊢
      by_cases feed : c = '\n'
      · rw [if_pos feed, maskFrom, if_pos rfl, ih]
        exact fun _ same => absurd same (by decide)
      · rw [if_neg feed, maskFrom, if_neg (by decide), ih]
        exact fun _ same => absurd same (by decide)
  | case12 rest ih => exact (mask_code '\n' _ (by decide) (by decide)).trans (congrArg _ ih)
  | case13 c rest no_feed ih => exact (mask_code ' ' _ (by decide) (by decide)).trans (congrArg _ ih)

def Lexeme.quotes : Lexeme → List Nat
  | .literal inner closed => 0 :: if closed then [inner.length + 1] else []
  | .tripleLiteral inner closed =>
      [0, 1, 2] ++ if closed then [inner.length + 3, inner.length + 4, inner.length + 5] else []
  | _ => []

-- At a place in a text stands a quote that opens or closes a literal.
def Delimits (text : List Char) (place : Nat) : Prop :=
  ∃ front lexeme back, Lexed (front ++ lexeme :: back) text ∧
    ∃ quote ∈ lexeme.quotes, place = (front.flatMap Lexeme.written).length + quote

theorem quotes_shown (lexeme : Lexeme) (rest : List Char) (reads : lexeme.Reads rest) (place : Nat) :
    lexeme.shown[place]? = some '"' ↔ place ∈ lexeme.quotes := by
  cases lexeme with
  | code c =>
      have other : c ≠ '"' := reads.1
      cases place <;> simp [Lexeme.shown, Lexeme.quotes, other]
  | literal inner closed =>
      cases closed <;> simp [Lexeme.shown, Lexeme.quotes, blanked, List.getElem?_cons, List.getElem?_append] <;> grind
  | tripleLiteral inner closed =>
      cases closed <;> simp [Lexeme.shown, Lexeme.quotes, veiled, tripleQuote, List.getElem?_cons, List.getElem?_append] <;> grind
  | comment inner => simp [Lexeme.shown, Lexeme.quotes, blanked, List.getElem?_cons]; grind

theorem mask_quotes (text : List Char) (place : Nat) : (mask text)[place]? = some '"' ↔ Delimits text place := by
  constructor
  · intro quote
    obtain ⟨lexemes, lexed⟩ := lexed_total text
    rw [mask_lexed lexemes text lexed] at quote
    obtain ⟨inside, same⟩ := List.getElem?_eq_some_iff.mp quote
    have split := (List.take_append_drop place (lexemes.flatMap Lexeme.shown)).symm
    rw [List.drop_eq_getElem_cons inside, same] at split
    obtain ⟨front, lexeme, back, first, last, rfl, shown, before, -⟩ := flat_map_split _ _ _ _ _ split
    obtain ⟨rest, -, _ | ⟨_, _, rest, reads⟩⟩ := lexed_behind front (lexeme :: back) text lexed
    refine ⟨front, lexeme, back, lexed, first.length, (quotes_shown lexeme rest reads _).mp (by simp [shown]), ?_⟩
    have lengths := congrArg List.length before
    rw [List.length_append, shown_lengths, List.length_take] at lengths
    omega
  · rintro ⟨front, lexeme, back, lexed, quote, member, rfl⟩
    obtain ⟨rest, -, _ | ⟨_, _, rest, reads⟩⟩ := lexed_behind front (lexeme :: back) text lexed
    have shown := (quotes_shown lexeme rest reads quote).mpr member
    rw [mask_lexed _ _ lexed, List.flatMap_append, List.flatMap_cons, ← shown_lengths,
      List.getElem?_append_right (Nat.le_add_right _ _), Nat.add_sub_cancel_left]
    exact List.getElem?_append_left (List.getElem?_eq_some_iff.mp shown).1 ▸ shown

theorem mask_stable (text : List Char) :
    (mask text).length = text.length ∧ List.Forall₂ Shows (mask text) text ∧
      (∀ place, Delimits text place ↔ text[place]? = some '"' ∧ (mask text)[place]? = some '"') ∧
      mask (mask text) = mask text := by
  have shows := mask_shows .code text
  refine ⟨length_maskFrom .code text, shows, fun place => ?_, mask_from_again .code text⟩
  rw [← mask_quotes]
  refine ⟨fun quote => ⟨?_, quote⟩, And.right⟩
  obtain ⟨inside, same⟩ := List.getElem?_eq_some_iff.mp quote
  have within : place < text.length := shows.length_eq ▸ inside
  exact List.getElem?_eq_some_iff.mpr ⟨within, shows_quote (shows.get inside within) same⟩

-- The quote behind the backslash and the one in the comment are hidden; the last one opens a literal that nothing closes.
example : mask "\"a\\\"b\"#\"\n\"c".toList = "\"    \"  \n\" ".toList := by decide

end PipelineLint.Expression
