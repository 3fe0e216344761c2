import PipelineLint.Expression.Interpolation
import PipelineLint.Proofs.Masking
import PipelineLint.Proofs.Runs

set_option autoImplicit false

namespace PipelineLint.Expression

-- The text of an interpolation from a state on: the next closing brace behind it ends the interpolation.
inductive Body : (depth : Nat) → (inString : Bool) → List Char → Prop where
  | done : Body 0 false []
  | escape (depth : Nat) (c : Char) (rest : List Char) : Body depth true rest → Body depth true ('\\' :: c :: rest)
  | inside (depth : Nat) (c : Char) (rest : List Char) : c ≠ '\\' → Body depth (c ≠ '"') rest → Body depth true (c :: rest)
  | closes (depth : Nat) (rest : List Char) : Body depth false rest → Body (depth + 1) false ('\x7d' :: rest)
  | outside (depth : Nat) (c : Char) (rest : List Char) : c ≠ '\x7d' →
      Body (if c = '\x7b' then depth + 1 else depth) (c = '"') rest → Body depth false (c :: rest)

theorem take_expression_body (depth : Nat) (inString : Bool) (text body after : List Char)
    (taken : takeExpression? depth inString text = some (body, after)) :
    Body depth inString body ∧ text = body ++ '\x7d' :: after := by
  fun_induction takeExpression? depth inString text generalizing body with
  | case1 => cases taken
  | case2 depth c rest ih =>
      obtain ⟨⟨inner, behind⟩, found, same⟩ := Option.map_eq_some_iff.mp taken
      cases same
      obtain ⟨reads, rfl⟩ := ih inner found
      exact ⟨.escape depth c inner reads, rfl⟩
  | case3 depth c rest single ih =>
      obtain ⟨⟨inner, behind⟩, found, same⟩ := Option.map_eq_some_iff.mp taken
      cases same
      obtain ⟨reads, rfl⟩ := ih inner found
      refine ⟨.inside depth c inner ?_ reads, rfl⟩
      intro escape
      cases inner with
      | nil => exact single _ _ escape rfl
      | cons d inner => exact single _ _ escape rfl
  | case4 rest =>
      cases taken
      exact ⟨.done, rfl⟩
  | case5 rest depth ih =>
      obtain ⟨⟨inner, behind⟩, found, same⟩ := Option.map_eq_some_iff.mp taken
      cases same
      obtain ⟨reads, rfl⟩ := ih inner found
      exact ⟨.closes depth inner reads, rfl⟩
  | case6 depth c rest brace ih =>
      obtain ⟨⟨inner, behind⟩, found, same⟩ := Option.map_eq_some_iff.mp taken
      cases same
      obtain ⟨reads, rfl⟩ := ih inner found
      exact ⟨.outside depth c inner brace reads, rfl⟩

theorem take_expression_inside (depth : Nat) (c : Char) (rest : List Char) (plain : c ≠ '\\') :
    takeExpression? depth true (c :: rest) =
      (takeExpression? depth (c ≠ '"') rest).map fun (body, after) => (c :: body, after) := by
  cases rest <;> simp [takeExpression?, plain]

theorem body_taken (depth : Nat) (inString : Bool) (body after : List Char) (reads : Body depth inString body) :
    takeExpression? depth inString (body ++ '\x7d' :: after) = some (body, after) := by
  induction reads with
  | done => rfl
  | escape depth c rest reads ih =>
      simp only [List.cons_append]
      rw [takeExpression?, ih]
      rfl
  | inside depth c rest plain reads ih =>
      rw [List.cons_append, take_expression_inside depth c _ plain, ih]
      rfl
  | closes depth rest reads ih =>
      simp [takeExpression?, ih]
  | outside depth c rest brace reads ih =>
      rw [List.cons_append, takeExpression?.eq_def]
      simp only
      rw [if_neg brace, ih]
      rfl

theorem body_word (depth : Nat) (inString : Bool) (word rest : List Char) (letters : ∀ c ∈ word, Text.isWord c = true) :
    Body depth inString (word ++ rest) ↔ Body depth inString rest := by
  induction word with
  | nil => exact Iff.rfl
  | cons c word ih =>
      have letter := letters c List.mem_cons_self
      have quote := word_ne c '"' letter (by decide)
      have escape := word_ne c '\\' letter (by decide)
      have opening := word_ne c '\x7b' letter (by decide)
      have closing := word_ne c '\x7d' letter (by decide)
      rw [← ih fun d member => letters d (List.mem_cons_of_mem _ member), List.cons_append]
      generalize word ++ rest = behind
      constructor
      · intro reads
        cases reads with
        | escape => exact absurd rfl escape
        | inside _ _ _ _ reads => simpa [quote] using reads
        | closes => exact absurd rfl closing
        | outside _ _ _ _ reads => simpa [quote, opening] using reads
      · intro reads
        cases inString with
        | true => exact .inside depth c _ escape (by simpa [quote] using reads)
        | false => exact .outside depth c _ closing (by simpa [quote, opening] using reads)

theorem body_renamed (depth : Nat) (inString : Bool) (before name other tail : List Char)
    (letters : ∀ c ∈ name, Text.isWord c = true) (others : ∀ c ∈ other, Text.isWord c = true) (some_name : name ≠ [])
    (some_other : other ≠ []) (reads : Body depth inString (before ++ (name ++ tail))) :
    Body depth inString (before ++ (other ++ tail)) := by
  generalize whole : before ++ (name ++ tail) = text at reads
  induction reads generalizing before with
  | done => simp_all
  | escape depth c rest reads ih =>
      match before with
      | [] =>
          have starts := (body_word depth true name tail letters).mp (whole ▸ .escape depth c rest reads)
          exact (body_word depth true other tail others).mpr starts
      | [_] =>
          obtain ⟨rfl, inner⟩ := List.cons.inj whole
          obtain ⟨first, name, rfl⟩ := List.exists_cons_of_ne_nil some_name
          obtain ⟨head, other, rfl⟩ := List.exists_cons_of_ne_nil some_other
          obtain ⟨rfl, rfl⟩ := List.cons.inj inner
          have starts := (body_word depth true name tail fun d member => letters d (List.mem_cons_of_mem _ member)).mp reads
          exact .escape depth head _
            ((body_word depth true other tail fun d member => others d (List.mem_cons_of_mem _ member)).mpr starts)
      | _ :: _ :: before =>
          obtain ⟨rfl, inner⟩ := List.cons.inj whole
          obtain ⟨rfl, behind⟩ := List.cons.inj inner
          exact .escape depth _ _ (ih before behind)
  | inside depth c rest plain reads ih =>
      cases before with
      | nil =>
          have starts := (body_word depth true name tail letters).mp (whole ▸ .inside depth c rest plain reads)
          exact (body_word depth true other tail others).mpr starts
      | cons d before =>
          obtain ⟨rfl, inner⟩ := List.cons.inj whole
          exact .inside depth d _ plain (ih before inner)
  | closes depth rest reads ih =>
      cases before with
      | nil =>
          have starts := (body_word (depth + 1) false name tail letters).mp (whole ▸ .closes depth rest reads)
          exact (body_word (depth + 1) false other tail others).mpr starts
      | cons d before =>
          obtain ⟨rfl, inner⟩ := List.cons.inj whole
          exact .closes depth _ (ih before inner)
  | outside depth c rest brace reads ih =>
      cases before with
      | nil =>
          have starts := (body_word depth false name tail letters).mp (whole ▸ .outside depth c rest brace reads)
          exact (body_word depth false other tail others).mpr starts
      | cons d before =>
          obtain ⟨rfl, inner⟩ := List.cons.inj whole
          exact .outside depth d _ brace (ih before inner)

theorem interpolations_other (offset : Nat) (c : Char) (rest : List Char)
    (plain : ∀ later, c :: rest ≠ '$' :: '\x7b' :: '!' :: later) :
    interpolationsFrom offset (c :: rest) = interpolationsFrom (offset + 1) rest := by
  rw [interpolationsFrom]
  intro later dollar same
  exact plain later (by rw [dollar, same])

theorem interpolations_open (offset : Nat) (body after : List Char) (reads : Body 0 false body) :
    interpolationsFrom offset (opener ++ (body ++ '\x7d' :: after)) =
      ⟨offset + 3, body⟩ :: interpolationsFrom (offset + 3 + body.length + 1) after := by
  have taken := body_taken 0 false body after reads
  show interpolationsFrom offset ('$' :: '\x7b' :: '!' :: (body ++ '\x7d' :: after)) = _
  rw [interpolationsFrom]
  split
  · rename_i found
    rw [taken] at found
    cases found
    rfl
  · rename_i found
    rw [taken] at found
    cases found

theorem interpolations_unclosed (offset : Nat) (rest : List Char) (taken : takeExpression? 0 false rest = none) :
    interpolationsFrom offset ('$' :: '\x7b' :: '!' :: rest) = [] := by
  rw [interpolationsFrom]
  split
  · rename_i found
    rw [taken] at found
    cases found
  · rfl

theorem interpolation_bodies_offset (offset other : Nat) (text : List Char) :
    (interpolationsFrom offset text).map Interpolation.body = (interpolationsFrom other text).map Interpolation.body := by
  fun_induction interpolationsFrom offset text generalizing other with
  | case1 offset rest body after taken ih =>
      obtain ⟨reads, rfl⟩ := take_expression_body 0 false rest body after taken
      have opened := interpolations_open other body after reads
      rw [show '$' :: '\x7b' :: '!' :: (body ++ '\x7d' :: after) = opener ++ (body ++ '\x7d' :: after) from rfl, opened,
        List.map_cons, List.map_cons, ih]
  | case2 offset rest taken => rw [interpolations_unclosed other rest taken]
  | case3 offset c rest plain ih =>
      have skipped := interpolations_other other c rest fun later same =>
        plain later (List.cons.inj same).1 (List.cons.inj same).2
      rw [skipped]
      exact ih (other + 1)
  | case4 => simp [interpolationsFrom]

theorem interpolation_between (offset : Nat) (text : List Char) (span : Interpolation)
    (member : span ∈ interpolationsFrom offset text) : Body 0 false span.body ∧ ∃ before after,
      text = before ++ (opener ++ (span.body ++ '\x7d' :: after)) ∧ span.start = offset + (before ++ opener).length := by
  fun_induction interpolationsFrom offset text with
  | case1 offset rest body after taken ih =>
      obtain ⟨reads, rfl⟩ := take_expression_body 0 false rest body after taken
      rcases List.mem_cons.mp member with rfl | later
      · exact ⟨reads, [], after, rfl, rfl⟩
      · obtain ⟨inner, before, behind, rfl, start⟩ := ih later
        refine ⟨inner, opener ++ (body ++ '\x7d' :: before), behind, by simp [opener], ?_⟩
        rw [start]
        simp [opener]
        omega
  | case2 => cases member
  | case3 offset c rest _ ih =>
      obtain ⟨inner, before, behind, rfl, start⟩ := ih member
      refine ⟨inner, c :: before, behind, rfl, ?_⟩
      rw [start, List.cons_append, List.length_cons]
      omega
  | case4 => cases member

theorem interpolation_place (offset : Nat) (text : List Char) (span : Interpolation)
    (member : span ∈ interpolationsFrom offset text) :
    ∃ head rest, text = head ++ (span.body ++ rest) ∧ span.start = offset + head.length := by
  obtain ⟨-, before, after, rfl, start⟩ := interpolation_between offset text span member
  exact ⟨before ++ opener, '\x7d' :: after, by rw [List.append_assoc], start⟩

theorem interpolations_renamed (offset : Nat) (text before name other tail : List Char) (front back : List Interpolation)
    (span : Interpolation) (found : interpolationsFrom offset text = front ++ span :: back)
    (body : span.body = before ++ (name ++ tail)) (identifier : Text.isIdentifier name = true)
    (another : Text.isIdentifier other = true) :
    ∃ lead after, text = lead ++ (opener ++ (before ++ (name ++ tail) ++ '\x7d' :: after)) ∧
      span.start = offset + (lead ++ opener).length ∧
      ∃ later, interpolationsFrom offset (lead ++ (opener ++ (before ++ (other ++ tail) ++ '\x7d' :: after))) =
          front ++ ⟨span.start, before ++ (other ++ tail)⟩ :: later ∧
        later.map Interpolation.body = back.map Interpolation.body := by
  fun_induction interpolationsFrom offset text generalizing front with
  | case1 offset rest first after taken ih =>
      obtain ⟨reads, rfl⟩ := take_expression_body 0 false rest first after taken
      cases front with
      | nil =>
          obtain ⟨rfl, rfl⟩ := List.cons.inj found
          simp only at body
          subst body
          have renamed := body_renamed 0 false before name other tail (Text.identifier_words name identifier)
            (Text.identifier_words other another) (by rintro rfl; cases identifier) (by rintro rfl; cases another) reads
          refine ⟨[], after, rfl, rfl, _, interpolations_open offset _ after renamed, ?_⟩
          exact interpolation_bodies_offset _ _ after
      | cons s front =>
          obtain ⟨rfl, behind⟩ := List.cons.inj found
          obtain ⟨lead, last, rfl, start, later, same, bodies⟩ := ih front behind
          refine ⟨opener ++ (first ++ '\x7d' :: lead), last, ?_, ?_, later, ?_, bodies⟩
          · simp [opener]
          · rw [start]
            simp [opener]
            omega
          · rw [List.append_assoc, List.append_assoc, List.cons_append, interpolations_open offset first _ reads, same]
            rfl
  | case2 => simp at found
  | case3 offset c rest plain ih =>
      obtain ⟨lead, after, rfl, start, later, same, bodies⟩ := ih front found
      refine ⟨c :: lead, after, rfl, ?_, later, ?_, bodies⟩
      · rw [start]
        simp
        omega
      · rw [List.cons_append, interpolations_other offset c _ ?_, same]
        -- An opener that starts at `c` ends before the next one does.
        intro later whole
        obtain ⟨dollar, rest⟩ := List.cons.inj whole
        match lead with
        | [] => simp [opener] at rest
        | [_] => simp [opener] at rest
        | first :: second :: lead =>
            simp only [List.cons_append, List.cons.injEq] at rest
            obtain ⟨rfl, rfl, -⟩ := rest
            exact plain _ dollar rfl
  | case4 => simp at found

end PipelineLint.Expression
