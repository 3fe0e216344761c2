import Mathlib
import PipelineLint.Document.Inline

set_option autoImplicit false

namespace PipelineLint.Document

-- What of a text stands outside of quotes, where `opens before c` says which quotes open a text. The quote that closes it is
-- the next one of its kind, whatever stands in front of it.
inductive Outside (opens : Option Char → Char → Bool) : (before : Option Char) → (text out : List Char) → Prop
  | nil (before : Option Char) : Outside opens before [] []
  | plain (before : Option Char) (c : Char) (text out : List Char) (apart : opens before c = false)
      (others : Outside opens (some c) text out) : Outside opens before (c :: text) (c :: out)
  | quoted (before : Option Char) (quote : Char) (inside text out : List Char) (opening : opens before quote = true)
      (apart : quote ∉ inside) (others : Outside opens (some quote) text out) :
      Outside opens before (quote :: (inside ++ quote :: text)) out

def OutsideFrom (opens : Option Char → Char → Bool) (quote before : Option Char) (text out : List Char) : Prop :=
  match quote with
  | none => Outside opens before text out
  | some quote => ∃ inside rest, text = inside ++ quote :: rest ∧ quote ∉ inside ∧ Outside opens (some quote) rest out

theorem outside_from_step (opens : Option Char → Char → Bool) (quote c : Char) (before : Option Char) (text out : List Char)
    (others : OutsideFrom opens (if c = quote then none else some quote) (some c) text out) :
    OutsideFrom opens (some quote) before (c :: text) out := by
  by_cases ends : c = quote
  · subst ends
    rw [if_pos rfl] at others
    exact ⟨[], text, rfl, List.not_mem_nil, others⟩
  · rw [if_neg ends] at others
    obtain ⟨inside, rest, rfl, apart, behind⟩ := others
    exact ⟨c :: inside, rest, rfl, by simp [apart, Ne.symm ends], behind⟩

theorem outside_opened (opens : Option Char → Char → Bool) (before : Option Char) (quote : Char) (text out : List Char)
    (opening : opens before quote = true) (others : OutsideFrom opens (some quote) (some quote) text out) :
    Outside opens before (quote :: text) out := by
  obtain ⟨inside, rest, rfl, apart, behind⟩ := others
  exact .quoted before quote inside rest out opening apart behind

-- A quote opens a text for the comment only behind a blank, a bracket, a comma or a colon.
def opensText (before : Option Char) (c : Char) : Bool :=
  isQuote c && opensQuote before

def HasComment (text : List Char) : Prop :=
  ∃ front rest out, text = front ++ '#' :: rest ∧ Outside opensText none front out ∧ opensComment front.getLast? = true

theorem last_cons (c : Char) (text : List Char) (before : Option Char) :
    (c :: text).getLast?.or before = text.getLast?.or (some c) := by
  cases text <;> simp [List.getLast?_cons]

theorem before_comment_outside (quote before : Option Char) (text kept : List Char)
    (found : beforeComment? quote before text = some kept) :
    ∃ rest out, text = kept ++ '#' :: rest ∧ OutsideFrom opensText quote before kept out ∧
      opensComment (kept.getLast?.or before) = true := by
  fun_induction beforeComment? quote before text generalizing kept with
  | case1 => cases found
  | case2 before quote c rest ih =>
      obtain ⟨more, inside, rfl⟩ := Option.map_eq_some_iff.mp found
      obtain ⟨tail, out, rfl, outside, sign⟩ := ih more inside
      exact ⟨tail, out, rfl, outside_from_step opensText quote c before more out outside, (last_cons c more before).symm ▸ sign⟩
  | case3 before c rest opens ih =>
      obtain ⟨more, inside, rfl⟩ := Option.map_eq_some_iff.mp found
      obtain ⟨tail, out, rfl, outside, sign⟩ := ih more inside
      exact ⟨tail, out, rfl, outside_opened opensText before c more out opens outside, (last_cons c more before).symm ▸ sign⟩
  | case4 before c rest no_quote sign =>
      cases found
      simp only [Bool.and_eq_true, decide_eq_true_eq] at sign
      exact ⟨rest, [], by rw [sign.1]; rfl, .nil before, sign.2⟩
  | case5 before c rest no_quote no_sign ih =>
      obtain ⟨more, inside, rfl⟩ := Option.map_eq_some_iff.mp found
      obtain ⟨tail, out, rfl, outside, sign⟩ := ih more inside
      exact ⟨tail, c :: out, rfl, .plain before c more out (Bool.eq_false_iff.mpr no_quote) outside,
        (last_cons c more before).symm ▸ sign⟩

theorem before_comment_inside (quote : Char) (inside rest : List Char) (apart : quote ∉ inside) (before : Option Char) :
    beforeComment? (some quote) before (inside ++ quote :: rest) =
      (beforeComment? none (some quote) rest).map (inside ++ quote :: ·) := by
  induction inside generalizing before with
  | nil => simp [beforeComment?]
  | cons c inside ih =>
      simp only [List.mem_cons, not_or] at apart
      rw [List.cons_append, beforeComment?, if_neg (Ne.symm apart.1), ih apart.2, Option.map_map]
      rfl

theorem before_comment_found (before : Option Char) (front rest out : List Char) (outside : Outside opensText before front out)
    (sign : opensComment (front.getLast?.or before) = true) : (beforeComment? none before (front ++ '#' :: rest)).isSome = true := by
  induction outside with
  | nil before =>
      have opens : opensComment before = true := sign
      simp [beforeComment?, opens]
  | plain before c text out apart others ih =>
      rw [last_cons] at sign
      have no_quote : ¬((decide (c = '"') || decide (c = '\'')) && opensQuote before) = true := Bool.eq_false_iff.mp apart
      rw [List.cons_append, beforeComment?, if_neg no_quote]
      split
      · rfl
      · rw [Option.isSome_map, ih sign]
  | quoted before quote inside text out opening apart others ih =>
      have opens : ((decide (quote = '"') || decide (quote = '\'')) && opensQuote before) = true := opening
      have last : (quote :: (inside ++ quote :: text)).getLast?.or before = text.getLast?.or (some quote) := by
        rw [last_cons, List.getLast?_append, Option.or_assoc, last_cons]
      rw [last] at sign
      rw [List.cons_append, List.append_assoc, List.cons_append, beforeComment?, if_pos opens,
        before_comment_inside quote inside _ apart, Option.isSome_map, Option.isSome_map, ih sign]

theorem strip_comment_iff (text : List Char) : stripComment text = text ↔ ¬HasComment text := by
  unfold stripComment
  split
  · rename_i kept found
    obtain ⟨rest, out, rfl, outside, sign⟩ := before_comment_outside none none text kept found
    have shorter := Text.length_dropTrailing_le Text.isBlank kept
    refine iff_of_false (fun same => ?_) (not_not_intro ⟨kept, rest, out, rfl, outside, by simpa using sign⟩)
    have size := congrArg List.length same
    simp only [Text.trimRight, List.length_append, List.length_cons] at size
    omega
  · rename_i missing
    refine iff_of_true rfl ?_
    rintro ⟨front, rest, out, rfl, outside, sign⟩
    have found := before_comment_found none front rest out outside (by simpa using sign)
    rw [missing] at found
    cases found

def closesFlow (c : Char) : Bool :=
  c = ']' || c = '\x7d'

def opensAnywhere (_before : Option Char) (c : Char) : Bool :=
  isQuote c

-- Every quoted text is closed, and no bracket outside of quotes is left open by number.
def IsBalanced (text : List Char) : Prop :=
  ∃ out, Outside opensAnywhere none text out ∧ out.countP opensFlow ≤ out.countP closesFlow

def flowDepth (out : List Char) : Int :=
  out.countP opensFlow - out.countP closesFlow

def flowStep (c : Char) : Int :=
  if opensFlow c then 1 else if closesFlow c then -1 else 0

theorem flow_depth_cons (c : Char) (out : List Char) : flowDepth (c :: out) = flowStep c + flowDepth out := by
  have apart : opensFlow c = true → closesFlow c = false := by
    intro opens
    simp only [opensFlow, Bool.or_eq_true, decide_eq_true_eq] at opens
    rcases opens with rfl | rfl <;> rfl
  simp only [flowDepth, flowStep, List.countP_cons]
  cases opens : opensFlow c with
  | true =>
      simp only [apart opens, if_true, Bool.false_eq_true, if_false]
      omega
  | false =>
      simp only [Bool.false_eq_true, if_false]
      split <;> omega

theorem open_after_plain (depth : Int) (c : Char) (text : List Char) (plain : isQuote c = false) :
    openAfter depth none (c :: text) = openAfter (depth + flowStep c) none text := by
  have same : (decide (c = ']') || decide (c = '\x7d')) = closesFlow c := rfl
  rw [openAfter, if_neg (Bool.eq_false_iff.mp plain), same, flowStep]
  split
  · rfl
  · split
    · rfl
    · rw [Int.add_zero]

theorem open_after_inside (depth : Int) (quote : Char) (inside rest : List Char) (apart : quote ∉ inside) :
    openAfter depth (some quote) (inside ++ quote :: rest) = openAfter depth none rest := by
  induction inside with
  | nil => simp [openAfter]
  | cons c inside ih =>
      simp only [List.mem_cons, not_or] at apart
      simp [openAfter, Ne.symm apart.1, ih apart.2]

theorem open_after_outside (before : Option Char) (text out : List Char) (outside : Outside opensAnywhere before text out)
    (depth : Int) : openAfter depth none text = (depth + flowDepth out, none) := by
  induction outside generalizing depth with
  | nil => simp [openAfter, flowDepth]
  | plain before c text out apart others ih =>
      rw [open_after_plain depth c text apart, ih, flow_depth_cons, Int.add_assoc]
  | quoted before quote inside text out opening apart others ih =>
      have quotes : isQuote quote = true := opening
      rw [openAfter, if_pos quotes, open_after_inside depth quote inside text apart, ih]

theorem open_after_closed (before : Option Char) (depth last : Int) (quote : Option Char) (text : List Char)
    (ends : openAfter depth quote text = (last, none)) : ∃ out, OutsideFrom opensAnywhere quote before text out := by
  fun_induction openAfter depth quote text generalizing before with
  | case1 depth quote =>
      cases ends
      exact ⟨[], .nil before⟩
  | case2 depth quote c rest ih =>
      obtain ⟨out, others⟩ := ih (some c) ends
      exact ⟨out, outside_from_step opensAnywhere quote c before rest out others⟩
  | case3 depth c rest quotes ih =>
      obtain ⟨out, others⟩ := ih (some c) ends
      exact ⟨out, outside_opened opensAnywhere before c rest out quotes others⟩
  | case4 depth c rest no_quote _ ih | case5 depth c rest no_quote _ _ ih | case6 depth c rest no_quote _ _ ih =>
      obtain ⟨out, others⟩ := ih (some c) ends
      exact ⟨c :: out, .plain before c rest out (Bool.eq_false_iff.mpr no_quote) others⟩

theorem unbalanced_iff (text : List Char) : isUnbalanced text = false ↔ IsBalanced text := by
  constructor
  · intro balanced
    simp only [isUnbalanced, Bool.or_eq_false_iff, decide_eq_false_iff_not, not_lt, Option.isSome_eq_false_iff,
      Option.isNone_iff_eq_none] at balanced
    obtain ⟨out, outside⟩ := open_after_closed none 0 (openAfter 0 none text).1 none text (Prod.ext rfl balanced.2)
    have depth := open_after_outside none text out outside 0
    rw [depth, flowDepth] at balanced
    exact ⟨out, outside, by omega⟩
  · rintro ⟨out, outside, closed⟩
    simp only [isUnbalanced, open_after_outside none text out outside 0, flowDepth, Option.isSome_none, Bool.or_false,
      decide_eq_false_iff_not]
    omega

end PipelineLint.Document
