import PipelineLint.Proofs.CallPlaces
import PipelineLint.Proofs.Masking
import PipelineLint.Repair.Sites

set_option autoImplicit false

namespace PipelineLint.Expression

def callsFrom (kind : CallKind) (offset : Nat) (masked : List Char) : List CallSite :=
  match kind with
  | .method => methodCalls offset masked
  | .function => functionCalls none none offset masked

def callsOf (kind : CallKind) (text : List Char) : List CallSite :=
  callsFrom kind 0 (mask text)

def callHere (kind : CallKind) (pre name : List Char) (start : Nat) : List CallSite :=
  match kind with
  | .method => methodHere (inkBehind none pre) name start
  | .function => functionHere (charBehind none pre) (inkBehind none pre) name start

theorem method_calls_kind (offset : Nat) (masked : List Char) : ∀ site ∈ methodCalls offset masked, site.kind = .method := by
  induction masked generalizing offset with
  | nil => exact fun site member => nomatch member
  | cons c rest ih =>
      intro site member
      by_cases point : c = '.'
      · rw [point, method_calls_point] at member
        rcases List.mem_append.mp member with here | later
        · obtain ⟨name, -, rfl⟩ := List.mem_map.mp here
          rfl
        · exact ih (offset + 1) site later
      · rw [method_calls_skip offset c rest point] at member
        exact ih (offset + 1) site member

theorem function_calls_kind (before ink : Option Char) (offset : Nat) (masked : List Char) :
    ∀ site ∈ functionCalls before ink offset masked, site.kind = .function := by
  induction masked generalizing before ink offset with
  | nil => exact fun site member => nomatch member
  | cons c rest ih =>
      intro site member
      rw [function_calls_cons] at member
      rcases List.mem_append.mp member with here | later
      · unfold firstCalls at here
        split at here
        · obtain ⟨name, -, rfl⟩ := List.mem_map.mp here
          rfl
        · cases here
      · exact ih _ _ (offset + 1) site later

theorem calls_of_kind (kind : CallKind) (text : List Char) :
    (calls text).filter (fun site => decide (site.kind = kind)) = callsOf kind text := by
  have methods := method_calls_kind 0 (mask text)
  have functions := function_calls_kind none none 0 (mask text)
  unfold calls
  simp only [List.filter_append]
  cases kind with
  | method =>
      rw [List.filter_eq_self.mpr fun site member => decide_eq_true (methods site member),
        List.filter_eq_nil_iff.mpr fun site member => by simp [functions site member], List.append_nil]
      rfl
  | function =>
      rw [List.filter_eq_nil_iff.mpr fun site member => by simp [methods site member],
        List.filter_eq_self.mpr fun site member => decide_eq_true (functions site member), List.nil_append]
      rfl

theorem method_names_offset (offset other : Nat) (masked : List Char) :
    (methodCalls offset masked).map CallSite.name = (methodCalls other masked).map CallSite.name := by
  induction masked generalizing offset other with
  | nil => rfl
  | cons c rest ih =>
      by_cases point : c = '.'
      · rw [point, method_calls_point, method_calls_point, List.map_append, List.map_append, ih (offset + 1) (other + 1)]
        simp [pointCalls]
      · rw [method_calls_skip offset c rest point, method_calls_skip other c rest point]
        exact ih (offset + 1) (other + 1)

theorem function_names_offset (before ink : Option Char) (offset other : Nat) (masked : List Char) :
    (functionCalls before ink offset masked).map CallSite.name =
      (functionCalls before ink other masked).map CallSite.name := by
  induction masked generalizing before ink offset other with
  | nil => rfl
  | cons c rest ih =>
      rw [function_calls_cons, function_calls_cons, List.map_append, List.map_append, ih _ _ (offset + 1) (other + 1)]
      congr 1
      unfold firstCalls
      split
      · simp
      · rfl

theorem call_names_offset (kind : CallKind) (offset other : Nat) (masked : List Char) :
    (callsFrom kind offset masked).map CallSite.name = (callsFrom kind other masked).map CallSite.name := by
  cases kind with
  | method => exact method_names_offset offset other masked
  | function => exact function_names_offset none none offset other masked

theorem calls_cut (kind : CallKind) (pre name tail : List Char) (identifier : Text.isIdentifier name = true)
    (opens : Opens tail) (outside : isOutside (charBehind none pre) = true) :
    callsFrom kind 0 (pre ++ (name ++ tail)) =
      callsFrom kind 0 pre ++ callHere kind pre name pre.length ++ callsFrom kind (pre.length + name.length) tail := by
  cases kind with
  | method =>
      have cut := method_calls_cut 0 pre name tail identifier opens outside
      rw [Nat.zero_add] at cut
      exact cut
  | function =>
      have cut := function_calls_cut none none 0 pre name tail identifier opens outside
      rw [Nat.zero_add] at cut
      exact cut

theorem calls_split (kind : CallKind) (masked : List Char) (front back : List CallSite) (site : CallSite)
    (found : callsFrom kind 0 masked = front ++ site :: back) :
    ∃ pre tail, masked = pre ++ (site.name ++ tail) ∧ Text.isIdentifier site.name = true ∧ Opens tail ∧
      isOutside (charBehind none pre) = true ∧ site = ⟨site.name, kind, pre.length⟩ ∧
      callHere kind pre site.name pre.length = [site] ∧ front = callsFrom kind 0 pre := by
  cases kind with
  | method =>
      obtain ⟨pre, tail, split, identifier, opens, ink, outside, place, same⟩ :=
        method_calls_split 0 masked front back site found
      rw [Nat.zero_add] at place
      refine ⟨pre, tail, split, identifier, opens, outside, place, ?_, same⟩
      simp only [callHere, methodHere, ink, if_true]
      rw [← place]
  | function =>
      obtain ⟨pre, tail, split, identifier, opens, outside, here, same⟩ :=
        function_calls_split none none 0 masked front back site found
      rw [Nat.zero_add] at here
      rcases function_here_cases (charBehind none pre) (inkBehind none pre) site.name pre.length with absent | ⟨-, -, single⟩
      · rw [absent] at here
        cases here
      · rw [single] at here
        exact ⟨pre, tail, split, identifier, opens, outside, (List.cons.inj here).1.symm, single.trans here, same⟩

structure CallTail (tail : List Char) : Prop where
  ends : ∀ c ∈ tail.head?, Repair.isKeyCharacter c = false
  no_key : (tail.dropWhile Repair.isGap).head? ≠ some ':'
  bracket : '(' ∈ tail

theorem mask_quote_head (rest : List Char) : (maskFrom .code ('"' :: rest)).head? = some '"' := by
  unfold maskFrom
  split
  all_goals grind

theorem unmask_plain (text shown : List Char) (c : Char) (quote : c ≠ '"') (mask : maskFrom .code text = c :: shown) :
    ∃ rest, text = '#' :: rest ∨ text = c :: rest ∧ maskFrom .code rest = shown := by
  cases text with
  | nil => cases mask
  | cons first rest =>
      refine ⟨rest, ?_⟩
      by_cases mark : first = '#'
      · rw [mark]
        exact .inl rfl
      · by_cases opens : first = '"'
        · have head := mask_quote_head rest
          rw [← opens, mask] at head
          exact absurd ((Option.some.inj head).trans opens) quote
        · rw [mask_code first rest opens mark] at mask
          obtain ⟨rfl, same⟩ := List.cons.inj mask
          exact .inr ⟨rfl, same⟩

theorem mask_member (region : Region) (text : List Char) (c : Char) (solid : Text.isBlank c = false)
    (member : c ∈ maskFrom region text) : c ∈ text := by
  have space : c ≠ ' ' := by
    rintro rfl
    cases solid
  have feed : c ≠ '\n' := by
    rintro rfl
    cases solid
  fun_induction maskFrom region text <;> grind

-- The blanks in front of a bracket may hide a comment.
theorem unmask_gap (tail gap rest : List Char) (blank : ∀ c ∈ gap, Text.isBlank c = true)
    (shown : maskFrom .code tail = gap ++ '(' :: rest) : (tail.dropWhile Repair.isGap).head? ≠ some ':' := by
  induction gap generalizing tail with
  | nil =>
      obtain ⟨behind, rfl | ⟨rfl, -⟩⟩ := unmask_plain tail rest '(' (by decide) shown
      · simp [Repair.isGap]
      · simp [Repair.isGap]
  | cons c gap ih =>
      have here := blank c List.mem_cons_self
      have quote : c ≠ '"' := by
        rintro rfl
        cases here
      have colon : c ≠ ':' := by
        rintro rfl
        cases here
      obtain ⟨behind, rfl | ⟨rfl, same⟩⟩ := unmask_plain tail _ c quote shown
      · simp [Repair.isGap]
      · by_cases gap_here : Repair.isGap c = true
        · simp only [List.dropWhile_cons, gap_here, if_true]
          exact ih behind (fun d member => blank d (List.mem_cons_of_mem _ member)) same
        · simp [gap_here, colon]

theorem call_tail_unmasked (tail : List Char) (opens : Opens (maskFrom .code tail)) : CallTail tail := by
  obtain ⟨gap, rest, shown, blank⟩ := opens
  have bracket : '(' ∈ tail := mask_member .code tail '(' (by decide) (shown ▸ by simp)
  refine ⟨?_, unmask_gap tail gap rest blank shown, bracket⟩
  intro c head
  obtain ⟨behind, rfl⟩ := List.head?_eq_some_iff.mp head
  cases gap with
  | nil =>
      obtain ⟨later, same | ⟨same, -⟩⟩ := unmask_plain _ rest '(' (by decide) shown
      · rw [(List.cons.inj same).1]
        decide
      · rw [(List.cons.inj same).1]
        decide
  | cons d gap =>
      have here := blank d List.mem_cons_self
      have quote : d ≠ '"' := by
        rintro rfl
        cases here
      obtain ⟨later, same | ⟨same, -⟩⟩ := unmask_plain _ _ d quote shown
      · rw [(List.cons.inj same).1]
        decide
      · rw [(List.cons.inj same).1]
        have dash : d ≠ '-' := by
          rintro rfl
          cases here
        simp [Repair.isKeyCharacter, Text.blank_not_word d here, dash]

def IsCallable (kind : CallKind) (name : List Char) : Prop :=
  Text.isIdentifier name = true ∧ (kind = .function → String.ofList name ∉ keywords)

theorem call_here_other (kind : CallKind) (pre name other : List Char) (site : CallSite) (callable : IsCallable kind other)
    (here : callHere kind pre name pre.length = [site]) :
    callHere kind pre other pre.length = [⟨other, kind, pre.length⟩] := by
  cases kind with
  | method =>
      simp only [callHere, methodHere] at here ⊢
      split at here
      · rename_i ink
        rw [if_pos ink]
      · cases here
  | function =>
      have free : String.ofList other ∉ keywords := callable.2 rfl
      simp only [callHere, functionHere] at here ⊢
      split at here
      · rename_i allowed
        rw [if_pos]
        simp only [Bool.and_eq_true] at allowed ⊢
        exact ⟨allowed.1, by simpa using free⟩
      · cases here

theorem call_here_kinds (kind another : CallKind) (pre name : List Char) (other : List Char) (site : CallSite)
    (here : callHere kind pre name pre.length = [site]) (differs : another ≠ kind) :
    callHere another pre other pre.length = [] := by
  cases kind with
  | method =>
      cases another with
      | method => exact absurd rfl differs
      | function =>
          simp only [callHere, methodHere] at here ⊢
          split at here
          · rename_i ink
            simp [functionHere, ink]
          · cases here
  | function =>
      cases another with
      | function => exact absurd rfl differs
      | method =>
          rcases function_here_cases (charBehind none pre) (inkBehind none pre) name pre.length with absent | ⟨-, ink, -⟩
          · rw [show callHere .function pre name pre.length = [] from absent] at here
            cases here
          · simp [callHere, methodHere, ink]

theorem mask_name (before pre name tail : List Char) (cuts : Cuts .code before pre)
    (identifier : Text.isIdentifier name = true) :
    mask (before ++ (name ++ tail)) = pre ++ (name ++ maskFrom .code tail) := by
  obtain ⟨first, letters, rfl, starts, words⟩ := Text.identifier_cases name identifier
  unfold mask
  rw [List.cons_append, cuts.2 first _ (Text.isWord_of_isNameStart starts), mask_words letters tail words]
  rfl

theorem masked_name (text pre name shown : List Char) (identifier : Text.isIdentifier name = true)
    (masked : mask text = pre ++ (name ++ shown)) :
    ∃ before tail, text = before ++ (name ++ tail) ∧ maskFrom .code tail = shown ∧ Cuts .code before pre := by
  obtain ⟨first, letters, rfl, starts, words⟩ := Text.identifier_cases name identifier
  obtain ⟨before, rest, rfl, after, cuts⟩ :=
    mask_cut .code text pre (letters ++ shown) first (Text.isWord_of_isNameStart starts) masked
  obtain ⟨tail, rfl, behind⟩ := unmask_words letters rest shown words after
  exact ⟨before, tail, rfl, behind, cuts⟩

-- With another name in place of one that is called, the calls in front stay where they are, the call has the other name, and
-- all later calls and those of the other kind keep their names.
theorem calls_renamed (kind : CallKind) (text other : List Char) (front back : List CallSite) (site : CallSite)
    (found : callsOf kind text = front ++ site :: back) (callable : IsCallable kind other) :
    ∃ before tail, text = before ++ (site.name ++ tail) ∧ site.start = before.length ∧
      Text.isIdentifier site.name = true ∧ CallTail tail ∧
      (∃ later, callsOf kind (before ++ (other ++ tail)) = front ++ ⟨other, kind, site.start⟩ :: later ∧
        later.map CallSite.name = back.map CallSite.name) ∧
      ∀ another, another ≠ kind →
        (callsOf another (before ++ (other ++ tail))).map CallSite.name = (callsOf another text).map CallSite.name := by
  obtain ⟨pre, shown, masked, identifier, opens, outside, place, here, rfl⟩ := calls_split kind _ front back site found
  obtain ⟨before, tail, rfl, rfl, cuts⟩ := masked_name text pre site.name shown identifier masked
  have start : site.start = pre.length := by rw [place]
  have renamed := mask_name before pre other tail cuts callable.1
  refine ⟨before, tail, rfl, start.trans cuts.1.symm, identifier, call_tail_unmasked tail opens, ?_, ?_⟩
  · have cut := calls_cut kind pre site.name _ identifier opens outside
    unfold callsOf at found
    rw [masked, cut, here, List.append_assoc, List.singleton_append] at found
    have rest := (List.cons.inj (List.append_cancel_left found)).2
    refine ⟨callsFrom kind (pre.length + other.length) (maskFrom .code tail), ?_, ?_⟩
    · unfold callsOf
      rw [renamed, calls_cut kind pre other _ callable.1 opens outside,
        call_here_other kind pre site.name other site callable here, start]
      simp
    · rw [← rest]
      exact call_names_offset kind _ _ _
  · intro another differs
    unfold callsOf
    rw [renamed, masked, calls_cut another pre other _ callable.1 opens outside,
      calls_cut another pre site.name _ identifier opens outside, call_here_kinds kind another pre _ other site here differs,
      call_here_kinds kind another pre _ site.name site here differs]
    simp only [List.map_append]
    rw [call_names_offset another (pre.length + other.length) (pre.length + site.name.length)]

end PipelineLint.Expression
