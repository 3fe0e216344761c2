import PipelineLint.Settings.Environment

set_option autoImplicit false

namespace PipelineLint

namespace Environment

def reference (name : List Char) : List Char :=
  '$' :: '\x7b' :: name ++ ['\x7d']

def IsName (name : List Char) : Prop :=
  name ≠ [] ∧ '\x7d' ∉ name

def StartsReference (text : List Char) : Prop :=
  ∃ name after, IsName name ∧ text = reference name ++ after

def HasReference (text : List Char) : Prop :=
  ∃ front back, text = front ++ back ∧ StartsReference back

def NoneStarts (before tail : List Char) : Prop :=
  ∀ front back, before = front ++ back → back ≠ [] → ¬StartsReference (back ++ tail)

-- A text in which the references, read from the left, are replaced by what is set. Those to names that are not set stay.
inductive Replaced (env : Environment) : List Char → List Char → Prop where
  | plain (text : List Char) : ¬HasReference text → Replaced env text text
  | set (before name after rest : List Char) (text : String) : NoneStarts before (reference name ++ after) → IsName name →
      get? env (String.ofList name) = some text → Replaced env after rest →
      Replaced env (before ++ (reference name ++ after)) (before ++ (text.toList ++ rest))
  | unset (before name after rest : List Char) : NoneStarts before (reference name ++ after) → IsName name →
      get? env (String.ofList name) = none → Replaced env after rest →
      Replaced env (before ++ (reference name ++ after)) (before ++ (reference name ++ rest))

theorem brace_split (text name after : List Char) (inside : '\x7d' ∉ name) :
    text = name ++ '\x7d' :: after ↔
      text.takeWhile (· ≠ '\x7d') = name ∧ ∃ brace, text.dropWhile (· ≠ '\x7d') = brace :: after := by
  constructor
  · rintro rfl
    have letters : ∀ c ∈ name, decide (c ≠ '\x7d') = true := by
      intro c member
      exact decide_eq_true fun same => inside (same ▸ member)
    rw [List.takeWhile_append_of_pos letters, List.dropWhile_append_of_pos letters]
    simp
  · rintro ⟨rfl, brace, closed⟩
    have stop : brace = '\x7d' := by
      have fails := List.head?_dropWhile_not (fun c : Char => decide (c ≠ '\x7d')) text
      rw [closed] at fails
      simpa using fails
    rw [stop] at closed
    rw [← closed]
    exact List.takeWhile_append_dropWhile.symm

theorem take_reference_iff (text name after : List Char) :
    takeReference? text = some (name, after) ↔ IsName name ∧ text = reference name ++ after := by
  constructor
  · intro taken
    unfold takeReference? at taken
    split at taken
    · rename_i rest
      split at taken
      · rename_i brace _ closed
        split at taken
        · cases taken
        · rename_i some_name
          cases taken
          have inside : '\x7d' ∉ rest.takeWhile (· ≠ '\x7d') := by
            intro member
            simpa using List.all_eq_true.mp List.all_takeWhile '\x7d' member
          have whole := (brace_split rest _ after inside).mpr ⟨rfl, brace, closed⟩
          exact ⟨⟨some_name, inside⟩, by simpa [reference] using whole⟩
      · cases taken
    · cases taken
  · rintro ⟨⟨some_name, inside⟩, rfl⟩
    have shown : reference name ++ after = '$' :: '\x7b' :: (name ++ '\x7d' :: after) := by simp [reference]
    obtain ⟨kept, brace, dropped⟩ := (brace_split _ name after inside).mp rfl
    rw [shown, takeReference?, dropped, kept]
    obtain ⟨c, letters, rfl⟩ := List.exists_cons_of_ne_nil some_name
    rfl

theorem substitute_reference (env : Environment) (name after : List Char) (named : IsName name) :
    substituteText env (reference name ++ after) = resolve env name ++ substituteText env after := by
  have taken := (take_reference_iff (reference name ++ after) name after).mpr ⟨named, rfl⟩
  show substituteText env ('$' :: ('\x7b' :: name ++ ['\x7d'] ++ after)) = _
  rw [substituteText]
  split
  · rename_i found
    rw [show '$' :: ('\x7b' :: name ++ ['\x7d'] ++ after) = reference name ++ after from rfl, taken] at found
    cases found
    rfl
  · rename_i found
    rw [show '$' :: ('\x7b' :: name ++ ['\x7d'] ++ after) = reference name ++ after from rfl, taken] at found
    cases found

theorem substitute_other (env : Environment) (c : Char) (rest : List Char) (none : ¬StartsReference (c :: rest)) :
    substituteText env (c :: rest) = c :: substituteText env rest := by
  rw [substituteText]
  split
  · rename_i name after found
    exact absurd ⟨name, after, (take_reference_iff _ name after).mp found⟩ none
  · rfl

theorem starts_reference_nil : ¬StartsReference [] := by
  rintro ⟨name, after, -, same⟩
  cases same

theorem has_reference_cons (c : Char) (rest : List Char) :
    HasReference (c :: rest) ↔ StartsReference (c :: rest) ∨ HasReference rest := by
  constructor
  · rintro ⟨front, back, same, starts⟩
    cases front with
    | nil => exact .inl (same ▸ starts)
    | cons d front => exact .inr ⟨front, back, (List.cons.inj same).2, starts⟩
  · rintro (starts | ⟨front, back, rfl, starts⟩)
    · exact ⟨[], c :: rest, rfl, starts⟩
    · exact ⟨c :: front, back, rfl, starts⟩

theorem none_starts_nil (tail : List Char) : NoneStarts [] tail := by
  intro front back same some_back
  exact absurd (List.append_eq_nil_iff.mp same.symm).2 some_back

theorem none_starts_cons (c : Char) (before tail : List Char) (none : ¬StartsReference (c :: (before ++ tail)))
    (others : NoneStarts before tail) : NoneStarts (c :: before) tail := by
  intro front back same some_back
  cases front with
  | nil =>
      rw [List.nil_append] at same
      rw [← same]
      exact none
  | cons d front => exact others front back (List.cons.inj same).2 some_back

theorem replaced_cons (env : Environment) (c : Char) (text rest : List Char) (none : ¬StartsReference (c :: text))
    (replaced : Replaced env text rest) : Replaced env (c :: text) (c :: rest) := by
  cases replaced with
  | plain _ absent => exact .plain _ fun found => ((has_reference_cons c text).mp found).elim none absent
  | set before name after rest text before_none named found replaced =>
      exact .set (c :: before) name after rest text (none_starts_cons c before _ none before_none) named found replaced
  | unset before name after rest before_none named missing replaced =>
      exact .unset (c :: before) name after rest (none_starts_cons c before _ none before_none) named missing replaced

theorem substitute_nil (env : Environment) : substituteText env [] = [] := by
  rw [substituteText]

@[elab_as_elim] theorem reference_induction {holds : List Char → Prop} (empty : holds [])
    (reference : ∀ name after, IsName name → holds after → holds (reference name ++ after))
    (other : ∀ c rest, ¬StartsReference (c :: rest) → holds rest → holds (c :: rest)) (text : List Char) : holds text := by
  induction length : text.length using Nat.strongRecOn generalizing text with
  | _ size shorter =>
      cases text with
      | nil => exact empty
      | cons c rest =>
          by_cases starts : StartsReference (c :: rest)
          · obtain ⟨name, after, named, same⟩ := starts
            rw [same] at length ⊢
            refine reference name after named (shorter after.length ?_ after rfl)
            rw [← length]
            simp [Environment.reference]
            omega
          · exact other c rest starts (shorter rest.length (by rw [← length]; simp) rest rfl)

theorem substitute_replaced (env : Environment) (text : List Char) : Replaced env text (substituteText env text) := by
  induction text using reference_induction with
  | empty =>
      rw [substitute_nil]
      refine .plain [] ?_
      rintro ⟨front, back, same, starts⟩
      rw [(List.append_eq_nil_iff.mp same.symm).2] at starts
      exact starts_reference_nil starts
  | reference name after named ih =>
      rw [substitute_reference env name after named]
      unfold resolve
      cases found : get? env (String.ofList name) with
      | some text => exact .set [] name after _ text (none_starts_nil _) named found ih
      | none => exact .unset [] name after _ (none_starts_nil _) named found ih
  | other c rest none ih =>
      rw [substitute_other env c rest none]
      exact replaced_cons env c rest _ none ih

theorem substitute_no_reference (env : Environment) (text : List Char) (absent : ¬HasReference text) :
    substituteText env text = text := by
  induction text with
  | nil => exact substitute_nil env
  | cons c rest ih =>
      rw [has_reference_cons, not_or] at absent
      rw [substitute_other env c rest absent.1, ih absent.2]

-- No text of a name can be empty or make part of a reference.
def IsPlain (env : Environment) : Prop :=
  ∀ name text, get? env name = some text → text ≠ "" ∧ ∀ c ∈ ['$', '\x7b', '\x7d'], c ∉ text.toList

theorem substitute_plain_front (env : Environment) (front rest : List Char) (plain : '$' ∉ front) :
    substituteText env (front ++ rest) = front ++ substituteText env rest := by
  induction front with
  | nil => rfl
  | cons c front ih =>
      rw [List.mem_cons, not_or] at plain
      have none : ¬StartsReference (c :: (front ++ rest)) := by
        rintro ⟨name, after, -, same⟩
        exact plain.1 (List.cons.inj same).1.symm
      rw [List.cons_append, List.cons_append, substitute_other env c _ none, ih plain.2]

theorem reference_closes (text : List Char) (found : HasReference text) : '\x7d' ∈ text := by
  obtain ⟨front, back, rfl, name, after, -, rfl⟩ := found
  simp [reference]

theorem substitute_brace (env : Environment) (plain : IsPlain env) (text rest : List Char)
    (same : substituteText env text = '\x7b' :: rest) :
    ∃ behind, text = '\x7b' :: behind ∧ substituteText env behind = rest := by
  induction text using reference_induction with
  | empty =>
      rw [substitute_nil] at same
      cases same
  | reference name after named =>
      rw [substitute_reference env name after named, resolve] at same
      cases found : get? env (String.ofList name) with
      | some text =>
          obtain ⟨some_text, free⟩ := plain _ text found
          simp only [found] at same
          cases letters : text.toList with
          | nil => exact absurd (String.toList_eq_nil_iff.mp letters) some_text
          | cons c others =>
              rw [letters] at same
              exact absurd (by rw [letters, (List.cons.inj same).1]; exact List.mem_cons_self) (free '\x7b' (by decide))
      | none =>
          simp only [found] at same
          cases (List.cons.inj same).1
  | other c behind none =>
      rw [substitute_other env c behind none] at same
      obtain ⟨rfl, replaced⟩ := List.cons.inj same
      exact ⟨behind, rfl, replaced⟩

theorem no_new_reference (env : Environment) (plain : IsPlain env) (c : Char) (text : List Char)
    (none : ¬StartsReference (c :: text)) : ¬StartsReference (c :: substituteText env text) := by
  rintro ⟨name, after, ⟨some_name, inside⟩, same⟩
  obtain ⟨rfl, opened⟩ := List.cons.inj same
  obtain ⟨rest, rfl, behind⟩ := substitute_brace env plain text _ opened
  by_cases closed : '\x7d' ∈ rest
  · obtain ⟨front, last, rfl, first⟩ := List.eq_append_cons_of_mem closed
    cases front with
    | nil =>
        -- Empty braces stay empty.
        have brace : ¬StartsReference ('\x7d' :: last) := by
          rintro ⟨other, later, -, found⟩
          cases (List.cons.inj found).1
        rw [List.nil_append, substitute_other env _ last brace] at behind
        obtain ⟨d, letters, rfl⟩ := List.exists_cons_of_ne_nil some_name
        exact inside ((List.cons.inj behind).1 ▸ List.mem_cons_self)
    | cons d front => exact none ⟨d :: front, last, ⟨List.cons_ne_nil d front, first⟩, by simp [reference]⟩
  · rw [substitute_no_reference env rest (closed ∘ reference_closes rest)] at behind
    exact closed (behind ▸ by simp)

theorem substitute_text_twice (env : Environment) (plain : IsPlain env) (text : List Char) :
    substituteText env (substituteText env text) = substituteText env text := by
  induction text using reference_induction with
  | empty => rw [substitute_nil, substitute_nil]
  | reference name after named ih =>
      rw [substitute_reference env name after named]
      cases found : get? env (String.ofList name) with
      | some text =>
          have kept : resolve env name = text.toList := by rw [resolve, found]
          rw [kept, substitute_plain_front env _ _ ((plain _ text found).2 '$' (by decide)), ih]
      | none =>
          have kept : resolve env name = reference name := by rw [resolve, found]; rfl
          rw [kept, substitute_reference env name _ named, kept, ih]
  | other c rest none ih =>
      rw [substitute_other env c rest none, substitute_other env c _ (no_new_reference env plain c rest none), ih]

mutual

-- Two values that differ in texts at most, and only as it is said of these.
inductive SameShape (texts : String → String → Prop) : Value → Value → Prop where
  | text (text other : String) : texts text other → SameShape texts (.str text) (.str other)
  | scalar (s : Scalar) : (∀ text, s ≠ .str text) → SameShape texts (.scalar s) (.scalar s)
  | list (items others : List Value) : SameShapes texts items others → SameShape texts (.list items) (.list others)
  | map (entries others : Entries) : SameKeys texts entries others → SameShape texts (.map entries) (.map others)

inductive SameShapes (texts : String → String → Prop) : List Value → List Value → Prop where
  | nil : SameShapes texts [] []
  | cons (item other : Value) (items others : List Value) : SameShape texts item other → SameShapes texts items others →
      SameShapes texts (item :: items) (other :: others)

inductive SameKeys (texts : String → String → Prop) : Entries → Entries → Prop where
  | nil : SameKeys texts [] []
  | cons (key : Scalar) (value other : Value) (entries others : Entries) : SameShape texts value other →
      SameKeys texts entries others → SameKeys texts ((key, value) :: entries) ((key, other) :: others)

end

def ReplacedText (env : Environment) (text other : String) : Prop :=
  Replaced env text.toList other.toList

mutual

theorem substitute_shape (env : Environment) : (value : Value) → SameShape (ReplacedText env) value (substitute env value)
  | .scalar s => by
      cases s with
      | str text =>
          refine .text text _ ?_
          unfold ReplacedText
          rw [String.toList_ofList]
          exact substitute_replaced env text.toList
      | _ => exact .scalar _ nofun
  | .list items => .list items _ (substitute_items_shape env items)
  | .map entries => .map entries _ (substitute_entries_shape env entries)

theorem substitute_items_shape (env : Environment) : (items : List Value) →
    SameShapes (ReplacedText env) items (substituteItems env items)
  | [] => .nil
  | item :: items => .cons item _ items _ (substitute_shape env item) (substitute_items_shape env items)

theorem substitute_entries_shape (env : Environment) : (entries : Entries) →
    SameKeys (ReplacedText env) entries (substituteEntries env entries)
  | [] => .nil
  | (key, value) :: entries => .cons key value _ entries _ (substitute_shape env value) (substitute_entries_shape env entries)

end

mutual

theorem substitute_twice (env : Environment) (plain : IsPlain env) : (value : Value) →
    substitute env (substitute env value) = substitute env value
  | .scalar s => by
      cases s with
      | str text => simp only [substitute, String.toList_ofList, substitute_text_twice env plain]
      | _ => rfl
  | .list items => by rw [substitute, substitute, substitute_items_twice env plain items]
  | .map entries => by rw [substitute, substitute, substitute_entries_twice env plain entries]

theorem substitute_items_twice (env : Environment) (plain : IsPlain env) : (items : List Value) →
    substituteItems env (substituteItems env items) = substituteItems env items
  | [] => rfl
  | item :: items => by
      rw [substituteItems, substituteItems, substitute_twice env plain item, substitute_items_twice env plain items]

theorem substitute_entries_twice (env : Environment) (plain : IsPlain env) : (entries : Entries) →
    substituteEntries env (substituteEntries env entries) = substituteEntries env entries
  | [] => rfl
  | (key, value) :: entries => by
      rw [substituteEntries, substituteEntries, substitute_twice env plain value, substitute_entries_twice env plain entries]

end

end Environment

end PipelineLint
