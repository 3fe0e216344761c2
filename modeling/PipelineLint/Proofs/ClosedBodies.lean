import PipelineLint.Proofs.Interpolations

set_option autoImplicit false

namespace PipelineLint.Expression

-- A body that is the only interpolation of the text that it makes with an opener and a closing brace.
def IsClosed (body : List Char) : Prop :=
  (interpolations (opener ++ (body ++ ['\x7d']))).map Interpolation.body = [body]

theorem closed_iff (body : List Char) : IsClosed body ↔ Body 0 false body := by
  unfold IsClosed interpolations
  constructor
  · intro closed
    cases taken : takeExpression? 0 false (body ++ ['\x7d']) with
    | none =>
        rw [show opener ++ (body ++ ['\x7d']) = '$' :: '\x7b' :: '!' :: (body ++ ['\x7d']) from rfl,
          interpolations_unclosed 0 _ taken] at closed
        cases closed
    | some found =>
        obtain ⟨inner, after⟩ := found
        obtain ⟨reads, split⟩ := take_expression_body 0 false _ inner after taken
        rw [split, interpolations_open 0 inner after reads] at closed
        obtain ⟨rfl, -⟩ := List.cons.inj closed
        exact reads
  · intro reads
    rw [interpolations_open 0 body [] reads]
    simp [interpolationsFrom]

theorem interpolations_skip (offset : Nat) (literal rest : List Char) (plain : Text.NoneStarts opener literal rest) :
    interpolationsFrom offset (literal ++ rest) = interpolationsFrom (offset + literal.length) rest := by
  induction literal generalizing offset with
  | nil => rfl
  | cons c literal ih =>
      have here := plain [] (c :: literal) rfl (by simp)
      rw [List.cons_append, interpolations_other offset c _ ?_, ih (offset + 1) (Text.none_starts_tail _ _ _ c plain),
        List.length_cons, Nat.add_assoc, Nat.add_comm 1]
      exact fun later same => here ⟨later, by rw [List.cons_append, same]; rfl⟩

theorem opener_apart (literal : List Char) (plain : ¬opener <:+: literal) : ¬opener <:+: literal ++ opener.dropLast := by
  have longer (text : List Char) (c : Char) (mark : c ≠ '!') (early : opener <:+: text ++ [c]) : opener <:+: text := by
    rcases List.infix_concat_iff.mp early with last | inside
    · obtain ⟨front, same⟩ := last
      have ends := congrArg List.getLast? same
      rw [List.getLast?_concat, List.getLast?_append] at ends
      exact absurd (Option.some.inj ends).symm mark
    · exact inside
  intro early
  have shorter : literal ++ opener.dropLast = literal ++ ['$'] ++ ['\x7b'] := by simp [opener]
  rw [shorter] at early
  exact plain (longer literal '$' (by decide) (longer _ '\x7b' (by decide) early))

def joined (first : List Char) (parts : List (List Char × List Char)) : List Char :=
  first ++ parts.flatMap fun (body, literal) => opener ++ (body ++ '\x7d' :: literal)

theorem joined_cons (first body literal : List Char) (parts : List (List Char × List Char)) :
    joined first ((body, literal) :: parts) = first ++ (opener ++ (body ++ '\x7d' :: joined literal parts)) := by
  simp [joined]

theorem joined_interpolations (offset : Nat) (first : List Char) (parts : List (List Char × List Char))
    (plain : ¬opener <:+: first) (closed : ∀ part ∈ parts, IsClosed part.1 ∧ ¬opener <:+: part.2) :
    interpolationsFrom offset (joined first parts) =
      parts.mapIdx fun place part => ⟨offset + (joined first (parts.take place) ++ opener).length, part.1⟩ := by
  induction parts generalizing offset first with
  | nil =>
      have skipped := interpolations_skip offset first [] (Text.none_starts_end opener first plain)
      simpa [joined, interpolationsFrom] using skipped
  | cons part parts ih =>
      obtain ⟨body, literal⟩ := part
      obtain ⟨reads, behind⟩ := closed _ List.mem_cons_self
      have place_here : offset + first.length + 3 = offset + (joined first [] ++ opener).length := by
        simp [joined, opener, Nat.add_assoc]
      have place_later (place : Nat) :
          offset + first.length + 3 + body.length + 1 + (joined literal (parts.take place) ++ opener).length =
            offset + (joined first (((body, literal) :: parts).take (place + 1)) ++ opener).length := by
        rw [List.take_succ_cons, joined_cons]
        simp only [List.length_append, List.length_cons, opener, List.length_nil]
        omega
      have rest := ih (offset + first.length + 3 + body.length + 1) literal behind fun part member =>
        closed part (List.mem_cons_of_mem _ member)
      rw [joined_cons, interpolations_skip offset first _ (Text.none_starts_before opener first _ (opener_apart first plain)),
        interpolations_open _ body _ ((closed_iff body).mp reads), rest, List.mapIdx_cons,
        List.take_zero, ← place_here]
      simp only [place_later]

theorem interpolations_in_order (offset : Nat) (text : List Char) :
    (interpolationsFrom offset text).Pairwise fun span other => span.start < other.start ∧ span.stop < other.start := by
  fun_induction interpolationsFrom offset text with
  | case1 offset rest body after taken ih =>
      refine .cons (fun other later => ?_) ih
      obtain ⟨-, before, behind, -, start⟩ := interpolation_between _ after other later
      rw [start]
      simp only [Interpolation.stop]
      omega
  | case2 => exact .nil
  | case3 offset c rest _ ih => exact ih
  | case4 => exact .nil

structure Interpolation.StandsIn (span : Interpolation) (text : List Char) : Prop where
  body : text.extract span.start span.stop = span.body
  opened : opener <:+ text.take span.start
  closed : text[span.stop]? = some '\x7d'

theorem interpolation_stands (text : List Char) (span : Interpolation) (member : span ∈ interpolations text) :
    span.StandsIn text := by
  obtain ⟨-, before, after, rfl, start⟩ := interpolation_between 0 text span member
  have opens : opener <:+ before ++ opener := List.suffix_append before opener
  rw [Nat.zero_add] at start
  rw [← List.append_assoc]
  generalize before ++ opener = lead at start opens
  have stop : span.stop = lead.length + span.body.length := by rw [Interpolation.stop, start]
  refine ⟨?_, ?_, ?_⟩
  · rw [stop, start]
    simp
  · rw [start, List.take_left]
    exact opens
  · rw [stop, List.getElem?_append_right (by omega), List.getElem?_append_right (by omega)]
    simp

-- A text that is put together from closed bodies and from literals without an opener has these bodies as its interpolations,
-- each where it stands. The interpolations of any text are closed bodies between an opener and a brace, one behind another.
theorem interpolations_recovered :
    (∀ (first : List Char) (parts : List (List Char × List Char)), ¬opener <:+: first →
      (∀ part ∈ parts, IsClosed part.1 ∧ ¬opener <:+: part.2) →
        interpolations (joined first parts) =
          parts.mapIdx fun place part => ⟨(joined first (parts.take place) ++ opener).length, part.1⟩) ∧
      ∀ text, (∀ span ∈ interpolations text, IsClosed span.body ∧ span.StandsIn text) ∧
        (interpolations text).Pairwise fun span other => span.start < other.start ∧ span.stop < other.start := by
  refine ⟨fun first parts plain closed => ?_, fun text => ⟨fun span member => ⟨?_, ?_⟩, interpolations_in_order 0 text⟩⟩
  · have recovered := joined_interpolations 0 first parts plain closed
    simp only [Nat.zero_add] at recovered
    exact recovered
  · exact (closed_iff span.body).mpr (interpolation_between 0 text span member).1
  · exact interpolation_stands text span member

def nestedBody : List Char :=
  " \x7b\"a\": \"\\\"$\x7b!\"\x7d.a ".toList

theorem interpolations_recovered_nested :
    ¬opener <:+: "a$".toList ∧ IsClosed nestedBody ∧ IsClosed [] ∧
      interpolations (joined "a$".toList [(nestedBody, "\x7d".toList), ([], [])]) = [⟨5, nestedBody⟩, ⟨28, []⟩] := by
  have plain : ¬opener <:+: "a$".toList := by decide +kernel
  have nested : IsClosed nestedBody := by
    unfold IsClosed
    decide +kernel
  have empty : IsClosed [] := by
    unfold IsClosed
    decide +kernel
  have closed : ∀ part ∈ [(nestedBody, "\x7d".toList), ([], [])], IsClosed part.1 ∧ ¬opener <:+: part.2 := by
    simp only [List.forall_mem_cons]
    exact ⟨⟨nested, by decide +kernel⟩, ⟨empty, by decide +kernel⟩, List.forall_mem_nil _⟩
  exact ⟨plain, nested, empty, (interpolations_recovered.1 "a$".toList _ plain closed).trans rfl⟩

end PipelineLint.Expression
