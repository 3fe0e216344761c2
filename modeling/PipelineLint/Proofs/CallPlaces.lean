import Mathlib.Data.List.TakeWhile
import PipelineLint.Expression.Call
import PipelineLint.Proofs.Runs

set_option autoImplicit false

namespace PipelineLint.Expression

-- The last character in front of a place behind a text, and the last one that is not blank.
def charBehind (before : Option Char) : List Char → Option Char
  | [] => before
  | c :: rest => charBehind (some c) rest

def inkBehind (ink : Option Char) (text : List Char) : Option Char :=
  text.foldl (fun ink c => if Text.isBlank c then ink else some c) ink

theorem ink_behind_cons (ink : Option Char) (c : Char) (rest : List Char) :
    inkBehind ink (c :: rest) = inkBehind (if Text.isBlank c then ink else some c) rest := by
  unfold inkBehind
  rw [List.foldl_cons]

theorem char_behind_cons (before : Option Char) (c : Char) (rest : List Char) :
    ∃ last ∈ c :: rest, charBehind before (c :: rest) = some last := by
  induction rest generalizing before c with
  | nil => exact ⟨c, List.mem_cons_self, rfl⟩
  | cons second rest ih =>
      obtain ⟨last, member, found⟩ := ih (some c) second
      exact ⟨last, List.mem_cons_of_mem _ member, found⟩

theorem ink_behind_blank (ink : Option Char) (text : List Char) (blank : ∀ c ∈ text, Text.isBlank c = true) :
    inkBehind ink text = ink := by
  induction text with
  | nil => rfl
  | cons c rest ih =>
      have here := blank c List.mem_cons_self
      rw [ink_behind_cons, if_pos here]
      exact ih fun d member => blank d (List.mem_cons_of_mem _ member)

theorem called_name_append (text rest : List Char) (first c : Char) (starts : Text.isNameStart first = true)
    (member : c ∈ text) (outside : Text.isWord c = false) : calledName? (text ++ first :: rest) = calledName? text := by
  obtain ⟨taken, dropped⟩ := Text.run_append Text.isWord text (first :: rest) c member outside
  have bracket : (Text.trimLeft ((text ++ first :: rest).dropWhile Text.isWord)).head? = some '(' ↔
      (Text.trimLeft (text.dropWhile Text.isWord)).head? = some '(' := by
    rw [dropped]
    unfold Text.trimLeft
    rcases Text.run_or_stop Text.isBlank (text.dropWhile Text.isWord) with blank | ⟨d, inside, solid⟩
    · have visible := Text.word_not_blank first (Text.isWord_of_isNameStart starts)
      have differs := Text.name_start_ne first '(' starts (by decide)
      have nothing := List.dropWhile_eq_nil_iff.mpr blank
      rw [List.dropWhile_append_of_pos blank, nothing]
      simp [visible, differs]
    · obtain ⟨-, trimmed⟩ := Text.run_append Text.isBlank _ (first :: rest) d inside solid
      obtain ⟨e, later, left, -⟩ := Text.run_stops Text.isBlank _ d inside solid
      rw [trimmed, left]
      rfl
  cases text with
  | nil => cases member
  | cons head text =>
      unfold calledName?
      simp only [List.cons_append] at bracket taken ⊢
      by_cases name : Text.isNameStart head = true
      · rw [if_pos name, if_pos name, taken]
        by_cases called : (Text.trimLeft ((head :: text).dropWhile Text.isWord)).head? = some '('
        · rw [if_pos called, if_pos (bracket.mpr called)]
        · rw [if_neg called, if_neg fun open_ => called (bracket.mp open_)]
      · rw [if_neg name, if_neg name]

-- What stands behind the name of a call: blanks and an opening bracket.
def Opens (tail : List Char) : Prop :=
  ∃ gap rest, tail = gap ++ '(' :: rest ∧ ∀ c ∈ gap, Text.isBlank c = true

theorem called_name_call (name tail : List Char) (identifier : Text.isIdentifier name = true) (opens : Opens tail) :
    calledName? (name ++ tail) = some name := by
  obtain ⟨gap, rest, rfl, blank⟩ := opens
  have letters := Text.identifier_words name identifier
  obtain ⟨first, others, rfl, starts, -⟩ := Text.identifier_cases name identifier
  have word_ends : (gap ++ '(' :: rest).takeWhile Text.isWord = [] ∧
      (gap ++ '(' :: rest).dropWhile Text.isWord = gap ++ '(' :: rest := by
    cases gap with
    | nil =>
        have outside : Text.isWord '(' = false := by decide
        exact ⟨by simp [outside], by simp [outside]⟩
    | cons c gap =>
        have outside := Text.blank_not_word c (blank c List.mem_cons_self)
        exact ⟨by simp [outside], by simp [outside]⟩
  have taken : (first :: others ++ (gap ++ '(' :: rest)).takeWhile Text.isWord = first :: others := by
    rw [List.takeWhile_append_of_pos letters, word_ends.1, List.append_nil]
  have dropped : (first :: others ++ (gap ++ '(' :: rest)).dropWhile Text.isWord = gap ++ '(' :: rest := by
    rw [List.dropWhile_append_of_pos letters, word_ends.2]
  have bracket : (Text.trimLeft (gap ++ '(' :: rest)).head? = some '(' := by
    unfold Text.trimLeft
    rw [List.dropWhile_append_of_pos blank]
    rfl
  rw [List.cons_append] at taken dropped ⊢
  unfold calledName?
  simp only
  rw [if_pos starts, dropped, if_pos bracket, taken]

theorem called_name_found (text name : List Char) (found : calledName? text = some name) :
    Text.isIdentifier name = true ∧ ∃ tail, text = name ++ tail ∧ Opens tail := by
  unfold calledName? at found
  split at found
  · cases found
  · rename_i first rest
    split at found
    · rename_i starts
      split at found
      · rename_i bracket
        cases found
        have word := Text.isWord_of_isNameStart starts
        refine ⟨?_, (first :: rest).dropWhile Text.isWord, List.takeWhile_append_dropWhile.symm, ?_⟩
        · simp only [List.takeWhile_cons, word, if_true, Text.isIdentifier, starts, Bool.true_and]
          exact List.all_takeWhile
        · obtain ⟨later, opened⟩ := List.head?_eq_some_iff.mp bracket
          refine ⟨((first :: rest).dropWhile Text.isWord).takeWhile Text.isBlank, later, ?_, ?_⟩
          · rw [← opened]
            exact List.takeWhile_append_dropWhile.symm
          · exact fun c member => (List.all_eq_true.mp List.all_takeWhile) c member
      · cases found
    · cases found

def isOutside (before : Option Char) : Bool :=
  before.all fun c => !Text.isWord c

theorem char_behind_append (before : Option Char) (first second : List Char) :
    charBehind before (first ++ second) = charBehind (charBehind before first) second := by
  induction first generalizing before with
  | nil => rfl
  | cons c first ih => exact ih (some c)

theorem ink_behind_solid (ink other : Option Char) (text : List Char) (c : Char) (member : c ∈ text)
    (solid : Text.isBlank c = false) : inkBehind ink text = inkBehind other text := by
  induction text generalizing ink other with
  | nil => cases member
  | cons first text ih =>
      cases blank : Text.isBlank first with
      | false => simp only [ink_behind_cons, blank, Bool.false_eq_true, if_false]
      | true =>
          rcases List.mem_cons.mp member with rfl | later
          · rw [solid] at blank
            cases blank
          · simp only [ink_behind_cons, blank, if_true]
            exact ih ink other later

theorem outside_member (before : Option Char) (c : Char) (rest : List Char)
    (outside : isOutside (charBehind before (c :: rest)) = true) : ∃ d ∈ c :: rest, Text.isWord d = false := by
  obtain ⟨last, member, found⟩ := char_behind_cons before c rest
  rw [found] at outside
  exact ⟨last, member, by simpa [isOutside] using outside⟩

theorem method_calls_skip (offset : Nat) (c : Char) (rest : List Char) (differs : c ≠ '.') :
    methodCalls offset (c :: rest) = methodCalls (offset + 1) rest := by
  rw [methodCalls]
  exact if_neg differs

theorem outside_blank (before : Option Char) (text : List Char) (blank : ∀ c ∈ text, Text.isBlank c = true)
    (outside : isOutside before = true) : isOutside (charBehind before text) = true := by
  induction text generalizing before with
  | nil => exact outside
  | cons c rest ih =>
      have here := Text.blank_not_word c (blank c List.mem_cons_self)
      exact ih (some c) (fun d member => blank d (List.mem_cons_of_mem _ member)) (by simp [isOutside, here])

theorem method_calls_blank (offset : Nat) (text : List Char) (blank : ∀ c ∈ text, Text.isBlank c = true) :
    methodCalls offset text = [] := by
  induction text generalizing offset with
  | nil => rfl
  | cons c rest ih =>
      have here := blank c List.mem_cons_self
      have differs : c ≠ '.' := by
        rintro rfl
        exact absurd here (by decide)
      rw [method_calls_skip offset c rest differs]
      exact ih (offset + 1) fun d member => blank d (List.mem_cons_of_mem _ member)

theorem method_calls_word (offset : Nat) (word rest : List Char) (letters : ∀ c ∈ word, Text.isWord c = true) :
    methodCalls offset (word ++ rest) = methodCalls (offset + word.length) rest := by
  induction word generalizing offset with
  | nil => rfl
  | cons c word ih =>
      have here := letters c List.mem_cons_self
      have differs : c ≠ '.' := by
        rintro rfl
        exact absurd here (by decide)
      rw [List.cons_append, method_calls_skip offset c _ differs,
        ih (offset + 1) fun d member => letters d (List.mem_cons_of_mem _ member), List.length_cons, Nat.add_assoc,
        Nat.add_comm 1]

def pointCalls (offset : Nat) (rest : List Char) : List CallSite :=
  (calledName? (rest.dropWhile Text.isBlank)).toList.map fun name =>
    ⟨name, .method, offset + 1 + (rest.takeWhile Text.isBlank).length⟩

theorem method_calls_point (offset : Nat) (rest : List Char) :
    methodCalls offset ('.' :: rest) = pointCalls offset rest ++ methodCalls (offset + 1) rest := by
  rw [methodCalls, if_pos rfl]
  unfold pointCalls
  cases calledName? (rest.dropWhile Text.isBlank) <;> rfl

theorem point_calls_solid (offset : Nat) (pre rest : List Char) (first c : Char) (starts : Text.isNameStart first = true)
    (member : c ∈ pre) (solid : Text.isBlank c = false) (outside : isOutside (charBehind none pre) = true) :
    pointCalls offset (pre ++ first :: rest) = pointCalls offset pre := by
  obtain ⟨taken, dropped⟩ := Text.run_append Text.isBlank pre (first :: rest) c member solid
  obtain ⟨head, later, left, -⟩ := Text.run_stops Text.isBlank pre c member solid
  have whole : pre = pre.takeWhile Text.isBlank ++ head :: later := by
    rw [← left]
    exact List.takeWhile_append_dropWhile.symm
  rw [whole, char_behind_append] at outside
  obtain ⟨d, inside, stop⟩ := outside_member _ head later outside
  unfold pointCalls
  rw [taken, dropped, left, called_name_append (head :: later) rest first d starts inside stop]

theorem point_calls_blank (offset : Nat) (pre : List Char) (blank : ∀ c ∈ pre, Text.isBlank c = true) :
    pointCalls offset pre = [] := by
  have nothing := List.dropWhile_eq_nil_iff.mpr blank
  unfold pointCalls
  rw [nothing]
  rfl

theorem point_calls_name (offset : Nat) (pre name tail : List Char) (blank : ∀ c ∈ pre, Text.isBlank c = true)
    (identifier : Text.isIdentifier name = true) (opens : Opens tail) :
    pointCalls offset (pre ++ (name ++ tail)) = [⟨name, .method, offset + 1 + pre.length⟩] := by
  have called := called_name_call name tail identifier opens
  obtain ⟨first, others, rfl, starts, -⟩ := Text.identifier_cases name identifier
  have visible := Text.word_not_blank first (Text.isWord_of_isNameStart starts)
  have dropped : (first :: others ++ tail).dropWhile Text.isBlank = first :: others ++ tail := by simp [visible]
  have taken : (first :: others ++ tail).takeWhile Text.isBlank = [] := by simp [visible]
  unfold pointCalls
  rw [List.dropWhile_append_of_pos blank, List.takeWhile_append_of_pos blank, dropped, taken, called, List.append_nil]
  rfl

def methodHere (ink : Option Char) (name : List Char) (start : Nat) : List CallSite :=
  if ink = some '.' then [⟨name, .method, start⟩] else []

theorem outside_tail (c : Char) (pre : List Char) (outside : isOutside (charBehind none (c :: pre)) = true) :
    isOutside (charBehind none pre) = true := by
  cases pre with
  | nil => rfl
  | cons d pre => exact outside

theorem method_calls_cut (offset : Nat) (pre name tail : List Char) (identifier : Text.isIdentifier name = true)
    (opens : Opens tail) (outside : isOutside (charBehind none pre) = true) :
    methodCalls offset (pre ++ (name ++ tail)) =
      methodCalls offset pre ++ methodHere (inkBehind none pre) name (offset + pre.length) ++
        methodCalls (offset + pre.length + name.length) tail := by
  induction pre generalizing offset with
  | nil => exact method_calls_word offset name tail (Text.identifier_words name identifier)
  | cons c pre ih =>
      have later := outside_tail c pre outside
      have places : offset + 1 + pre.length = offset + (c :: pre).length := by
        rw [List.length_cons, Nat.add_assoc, Nat.add_comm 1]
      have rest := ih (offset + 1) later
      rw [places] at rest
      rw [ink_behind_cons]
      rcases Text.run_or_stop Text.isBlank pre with blank | ⟨d, member, visible⟩
      · rw [method_calls_blank (offset + 1) pre blank, ink_behind_blank none pre blank] at rest
        rw [ink_behind_blank _ pre blank]
        by_cases point : c = '.'
        · have seen := point_calls_name offset pre name tail blank identifier opens
          rw [places] at seen
          rw [point] at seen rest ⊢
          rw [List.cons_append, method_calls_point, method_calls_point, rest, seen, point_calls_blank offset pre blank,
            method_calls_blank (offset + 1) pre blank]
          rfl
        · have nowhere : (if Text.isBlank c = true then none else some c) ≠ some '.' := by
            split
            · simp
            · simpa using point
          rw [List.cons_append, method_calls_skip offset c _ point, method_calls_skip offset c _ point, rest,
            method_calls_blank (offset + 1) pre blank]
          simp only [methodHere, if_neg nowhere]
          rfl
      · rw [ink_behind_solid _ none pre d member visible]
        by_cases point : c = '.'
        · obtain ⟨first, others, rfl, starts, -⟩ := Text.identifier_cases name identifier
          have seen := point_calls_solid offset pre (others ++ tail) first d starts member visible later
          rw [point, List.cons_append, method_calls_point, method_calls_point, rest, List.cons_append, seen, point]
          simp only [List.append_assoc]
        · rw [List.cons_append, method_calls_skip offset c _ point, method_calls_skip offset c _ point, rest]

theorem ink_behind_some (pre : List Char) (ink : Char) (found : inkBehind none pre = some ink) :
    ∃ c ∈ pre, Text.isBlank c = false := by
  induction pre with
  | nil => cases found
  | cons c pre ih =>
      cases blank : Text.isBlank c with
      | false => exact ⟨c, List.mem_cons_self, blank⟩
      | true =>
          simp only [ink_behind_cons, blank, if_true] at found
          obtain ⟨d, member, solid⟩ := ih found
          exact ⟨d, List.mem_cons_of_mem _ member, solid⟩

theorem behind_point_cons (c : Char) (pre : List Char) (ink : inkBehind none pre = some '.')
    (outside : isOutside (charBehind none pre) = true) :
    inkBehind none (c :: pre) = some '.' ∧ isOutside (charBehind none (c :: pre)) = true := by
  obtain ⟨d, member, solid⟩ := ink_behind_some pre '.' ink
  refine ⟨?_, ?_⟩
  · rw [← ink]
    exact ink_behind_solid _ none pre d member solid
  · cases pre with
    | nil => cases ink
    | cons d pre => exact outside

theorem point_calls_cases (offset : Nat) (rest : List Char) :
    pointCalls offset rest = [] ∨ ∃ gap name tail, rest = gap ++ (name ++ tail) ∧ (∀ c ∈ gap, Text.isBlank c = true) ∧
      Text.isIdentifier name = true ∧ Opens tail ∧ pointCalls offset rest = [⟨name, .method, offset + 1 + gap.length⟩] := by
  cases called : calledName? (rest.dropWhile Text.isBlank) with
  | none =>
      left
      unfold pointCalls
      rw [called]
      rfl
  | some name =>
      right
      obtain ⟨identifier, tail, split, opens⟩ := called_name_found _ name called
      refine ⟨rest.takeWhile Text.isBlank, name, tail, ?_, List.all_eq_true.mp List.all_takeWhile, identifier, opens, ?_⟩
      · rw [← split]
        exact List.takeWhile_append_dropWhile.symm
      · unfold pointCalls
        rw [called]
        rfl

theorem method_calls_split (offset : Nat) (masked : List Char) (front back : List CallSite) (site : CallSite)
    (found : methodCalls offset masked = front ++ site :: back) :
    ∃ pre tail, masked = pre ++ (site.name ++ tail) ∧ Text.isIdentifier site.name = true ∧ Opens tail ∧
      inkBehind none pre = some '.' ∧ isOutside (charBehind none pre) = true ∧
      site = ⟨site.name, .method, offset + pre.length⟩ ∧ front = methodCalls offset pre := by
  induction masked generalizing offset front with
  | nil => simp [methodCalls] at found
  | cons c rest ih =>
      by_cases point : c = '.'
      · subst point
        rw [method_calls_point] at found
        rcases append_split _ _ front back site found with ⟨others, rfl, later⟩ | ⟨others, here, -⟩
        · obtain ⟨pre, tail, rfl, identifier, opens, ink, outside, place, before⟩ := ih (offset + 1) others later
          obtain ⟨behind, still⟩ := behind_point_cons '.' pre ink outside
          obtain ⟨d, member, solid⟩ := ink_behind_some pre '.' ink
          obtain ⟨first, letters, named, starts, -⟩ := Text.identifier_cases site.name identifier
          have seen := point_calls_solid offset pre (letters ++ tail) first d starts member solid outside
          refine ⟨'.' :: pre, tail, rfl, identifier, opens, behind, still, ?_, ?_⟩
          · rw [List.length_cons, ← Nat.add_assoc, Nat.add_right_comm]
            exact place
          · rw [method_calls_point, before, named, ← seen]
            rfl
        · rcases point_calls_cases offset rest with absent | ⟨gap, name, tail, rfl, blank, identifier, opens, one⟩
          · rw [absent] at here
            simp at here
          · rw [one] at here
            cases front with
            | cons other front => simp at here
            | nil =>
                obtain ⟨rfl, -⟩ := List.cons.inj here
                have ink := ink_behind_blank (some '.') gap blank
                refine ⟨'.' :: gap, tail, rfl, identifier, opens, ink, ?_, ?_, ?_⟩
                · exact outside_blank (some '.') gap blank (by decide)
                · simp only [List.length_cons, Nat.add_assoc, Nat.add_comm 1]
                · rw [method_calls_point, point_calls_blank offset gap blank, method_calls_blank _ gap blank]
                  rfl
      · rw [method_calls_skip offset c rest point] at found
        obtain ⟨pre, tail, rfl, identifier, opens, ink, outside, place, before⟩ := ih (offset + 1) front found
        obtain ⟨behind, still⟩ := behind_point_cons c pre ink outside
        refine ⟨c :: pre, tail, rfl, identifier, opens, behind, still, ?_, ?_⟩
        · rw [List.length_cons, ← Nat.add_assoc, Nat.add_right_comm]
          exact place
        · rw [method_calls_skip offset c pre point]
          exact before

def firstCalls (before ink : Option Char) (offset : Nat) (text : List Char) : List CallSite :=
  if allowsCall before && ink ≠ some '.' then
    ((calledName? text).filter fun name => !keywords.contains (String.ofList name)).toList.map fun name =>
      ⟨name, .function, offset⟩
  else []

theorem function_calls_cons (before ink : Option Char) (offset : Nat) (c : Char) (rest : List Char) :
    functionCalls before ink offset (c :: rest) =
      firstCalls before ink offset (c :: rest) ++
        functionCalls (some c) (if Text.isBlank c then ink else some c) (offset + 1) rest := by
  rw [functionCalls]
  unfold firstCalls
  split
  · cases calledName? (c :: rest) with
    | none => rfl
    | some name =>
        by_cases keyword : String.ofList name ∈ keywords
        · simp [Option.filter, keyword]
        · simp [Option.filter, keyword]
  · rfl

theorem first_calls_outside (before ink : Option Char) (offset : Nat) (pre rest : List Char) (first c : Char)
    (starts : Text.isNameStart first = true) (member : c ∈ pre) (outside : Text.isWord c = false) :
    firstCalls before ink offset (pre ++ first :: rest) = firstCalls before ink offset pre := by
  unfold firstCalls
  rw [called_name_append pre rest first c starts member outside]

theorem first_calls_other (before ink : Option Char) (offset : Nat) (c : Char) (rest : List Char)
    (other : Text.isNameStart c = false) : firstCalls before ink offset (c :: rest) = [] := by
  have nothing : calledName? (c :: rest) = none := by
    simp [calledName?, other]
  unfold firstCalls
  rw [nothing]
  simp

def functionHere (before ink : Option Char) (name : List Char) (start : Nat) : List CallSite :=
  if (allowsCall before && ink ≠ some '.') && !keywords.contains (String.ofList name) then [⟨name, .function, start⟩] else []

theorem first_calls_name (before ink : Option Char) (offset : Nat) (name tail : List Char)
    (identifier : Text.isIdentifier name = true) (opens : Opens tail) :
    firstCalls before ink offset (name ++ tail) = functionHere before ink name offset := by
  unfold firstCalls functionHere
  rw [called_name_call name tail identifier opens]
  by_cases keyword : String.ofList name ∈ keywords
  · simp [Option.filter, keyword]
  · cases allowed : allowsCall before && decide (ink ≠ some '.') with
    | false => simp
    | true => simp [Option.filter, keyword]

theorem function_calls_word (before ink : Option Char) (offset : Nat) (word tail : List Char)
    (inside : isOutside before = false) (letters : ∀ c ∈ word, Text.isWord c = true) :
    ∃ last solid, functionCalls before ink offset (word ++ tail) = functionCalls last solid (offset + word.length) tail := by
  induction word generalizing before ink offset with
  | nil => exact ⟨before, ink, rfl⟩
  | cons c word ih =>
      have letter := letters c List.mem_cons_self
      have forbidden : firstCalls before ink offset (c :: (word ++ tail)) = [] := by
        cases before with
        | none => cases inside
        | some b =>
            have here : Text.isWord b = true := by simpa [isOutside] using inside
            simp [firstCalls, allowsCall, here]
      obtain ⟨last, solid, rest⟩ := ih (some c) (if Text.isBlank c then ink else some c) (offset + 1)
        (by simp [isOutside, letter]) (fun d member => letters d (List.mem_cons_of_mem _ member))
      refine ⟨last, solid, ?_⟩
      rw [List.cons_append, function_calls_cons, forbidden, List.nil_append, rest, List.length_cons, Nat.add_assoc,
        Nat.add_comm 1]

theorem function_calls_opens (before ink other solid : Option Char) (offset : Nat) (tail : List Char) (opens : Opens tail) :
    functionCalls before ink offset tail = functionCalls other solid offset tail := by
  obtain ⟨gap, rest, rfl, blank⟩ := opens
  induction gap generalizing before ink other solid offset with
  | nil =>
      have plain : Text.isNameStart '(' = false := by decide
      have visible : Text.isBlank '(' = false := by decide
      rw [List.nil_append, function_calls_cons, function_calls_cons, first_calls_other _ _ _ _ _ plain,
        first_calls_other _ _ _ _ _ plain, visible]
      rfl
  | cons c gap ih =>
      have here := blank c List.mem_cons_self
      have plain : Text.isNameStart c = false := by
        cases starts : Text.isNameStart c with
        | false => rfl
        | true =>
            have word := Text.isWord_of_isNameStart starts
            rw [Text.blank_not_word c here] at word
            cases word
      rw [List.cons_append, function_calls_cons, function_calls_cons, first_calls_other _ _ _ _ _ plain,
        first_calls_other _ _ _ _ _ plain]
      simp only [here, if_true, List.nil_append]
      exact ih (some c) ink (some c) solid (offset + 1) fun d member => blank d (List.mem_cons_of_mem _ member)

theorem function_calls_name (before ink : Option Char) (offset : Nat) (name tail : List Char)
    (identifier : Text.isIdentifier name = true) (opens : Opens tail) :
    functionCalls before ink offset (name ++ tail) =
      functionHere before ink name offset ++ functionCalls none none (offset + name.length) tail := by
  have head := first_calls_name before ink offset name tail identifier opens
  obtain ⟨first, letters, rfl, starts, words⟩ := Text.identifier_cases name identifier
  have word := Text.isWord_of_isNameStart starts
  obtain ⟨last, solid, rest⟩ := function_calls_word (some first) (if Text.isBlank first then ink else some first)
    (offset + 1) letters tail (by simp [isOutside, word]) words
  rw [List.cons_append] at head ⊢
  rw [function_calls_cons, head, rest, function_calls_opens last solid none none _ tail opens, List.length_cons,
    Nat.add_assoc, Nat.add_comm 1]

theorem function_calls_cut (before ink : Option Char) (offset : Nat) (pre name tail : List Char)
    (identifier : Text.isIdentifier name = true) (opens : Opens tail) (outside : isOutside (charBehind before pre) = true) :
    functionCalls before ink offset (pre ++ (name ++ tail)) =
      functionCalls before ink offset pre ++
        functionHere (charBehind before pre) (inkBehind ink pre) name (offset + pre.length) ++
          functionCalls none none (offset + pre.length + name.length) tail := by
  induction pre generalizing before ink offset with
  | nil => exact function_calls_name before ink offset name tail identifier opens
  | cons c pre ih =>
      obtain ⟨d, member, stop⟩ := outside_member before c pre outside
      obtain ⟨first, letters, rfl, starts, -⟩ := Text.identifier_cases name identifier
      have head := first_calls_outside before ink offset (c :: pre) (letters ++ tail) first d starts member stop
      have rest := ih (some c) (if Text.isBlank c then ink else some c) (offset + 1) outside
      have places : offset + 1 + pre.length = offset + (c :: pre).length := by
        rw [List.length_cons, Nat.add_assoc, Nat.add_comm 1]
      rw [places] at rest
      rw [List.cons_append] at head ⊢
      rw [function_calls_cons, function_calls_cons, rest]
      simp only [List.append_assoc, List.cons_append] at head ⊢
      rw [head]
      rfl

theorem first_calls_cases (before ink : Option Char) (offset : Nat) (text : List Char) :
    firstCalls before ink offset text = [] ∨ ∃ name tail, text = name ++ tail ∧ Text.isIdentifier name = true ∧ Opens tail ∧
      firstCalls before ink offset text = functionHere before ink name offset := by
  cases called : calledName? text with
  | none =>
      left
      unfold firstCalls
      rw [called]
      simp
  | some name =>
      obtain ⟨identifier, tail, rfl, opens⟩ := called_name_found text name called
      exact .inr ⟨name, tail, rfl, identifier, opens, first_calls_name before ink offset name tail identifier opens⟩

theorem function_here_cases (before ink : Option Char) (name : List Char) (start : Nat) :
    functionHere before ink name start = [] ∨
      isOutside before = true ∧ ink ≠ some '.' ∧ functionHere before ink name start = [⟨name, .function, start⟩] := by
  unfold functionHere
  split
  · rename_i allowed
    simp only [Bool.and_eq_true, decide_eq_true_eq] at allowed
    refine .inr ⟨?_, allowed.1.2, rfl⟩
    cases before with
    | none => rfl
    | some c =>
        have free := allowed.1.1
        simp only [allowsCall, Bool.not_eq_true', Bool.or_eq_false_iff] at free
        simp [isOutside, free.1.1.1]
  · exact .inl rfl

theorem function_calls_split (before ink : Option Char) (offset : Nat) (masked : List Char) (front back : List CallSite)
    (site : CallSite) (found : functionCalls before ink offset masked = front ++ site :: back) :
    ∃ pre tail, masked = pre ++ (site.name ++ tail) ∧ Text.isIdentifier site.name = true ∧ Opens tail ∧
      isOutside (charBehind before pre) = true ∧
      functionHere (charBehind before pre) (inkBehind ink pre) site.name (offset + pre.length) = [site] ∧
      front = functionCalls before ink offset pre := by
  induction masked generalizing before ink offset front with
  | nil => simp [functionCalls] at found
  | cons c rest ih =>
      rw [function_calls_cons] at found
      rcases append_split _ _ front back site found with ⟨others, rfl, later⟩ | ⟨others, here, -⟩
      · obtain ⟨pre, tail, rfl, identifier, opens, outside, place, same⟩ := ih (some c) _ (offset + 1) others later
        obtain ⟨d, member, stop⟩ := outside_member before c pre outside
        obtain ⟨first, letters, named, starts, -⟩ := Text.identifier_cases site.name identifier
        have head := first_calls_outside before ink offset (c :: pre) (letters ++ tail) first d starts member stop
        refine ⟨c :: pre, tail, rfl, identifier, opens, outside, ?_, ?_⟩
        · rw [List.length_cons, ← Nat.add_assoc, Nat.add_right_comm]
          exact place
        · rw [function_calls_cons, same, ← head, named]
          rfl
      · rcases first_calls_cases before ink offset (c :: rest) with absent | ⟨name, tail, split, identifier, opens, one⟩
        · rw [absent] at here
          simp at here
        · rw [one] at here
          rcases function_here_cases before ink name offset with absent | ⟨outside, -, single⟩
          · rw [absent] at here
            simp at here
          · rw [single] at here
            cases front with
            | cons other front => simp at here
            | nil =>
                obtain ⟨rfl, -⟩ := List.cons.inj here
                exact ⟨[], tail, split, identifier, opens, outside, single, rfl⟩

end PipelineLint.Expression
