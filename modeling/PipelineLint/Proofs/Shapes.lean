import PipelineLint.Proofs.Entries
import PipelineLint.Proofs.Leads

set_option autoImplicit false

namespace PipelineLint.Repair

-- What a line does to the levels: it leaves them as they are in a block, closes all of them, opens at most an item, or holds
-- a key behind at most a dash.
inductive Shape where
  | stay
  | reset
  | plain (dash : Option Nat)
  | entry (dash : Option Nat) (column : Nat) (key : String) (opens : Bool)

def lineShape (line : List Char) : Shape :=
  match leadOf line with
  | .silent => .plain none
  | .marker => .reset
  | .dash indent => .plain (some indent)
  | .entry dash column =>
      match plainEntry? (line.drop column) with
      | none => .plain dash
      | some (key, value) => .entry dash column (String.ofList key) (opensBlock value)

def shapeOf (block : Option Nat) (line : List Char) : Shape :=
  match block with
  | none => lineShape line
  | some column => if Text.allBlank line || decide (column < indentOf line) then .stay else lineShape line

def Shape.place (shape : Shape) (place : Place) : Place :=
  match shape with
  | .stay => place
  | .reset => {}
  | .plain dash => ⟨levelsBelow dash place.levels, none⟩
  | .entry dash column key opens => entryPlace (levelsBelow dash place.levels) column key opens

def Shape.keys (shape : Shape) (index : Nat) (levels : List (Nat × Level)) : List KeySite :=
  match shape with
  | .entry dash column key _ => [entrySite (levelsBelow dash levels) index column key]
  | _ => []

theorem visit_entry_shape (levels : List (Nat × Level)) (index column : Nat) (line : List Char) :
    match plainEntry? (line.drop column) with
    | none => (visitEntry levels index line column).1 = ⟨levels, none⟩ ∧ (visitEntry levels index line column).2.keys = []
    | some (key, value) =>
        (visitEntry levels index line column).1 = entryPlace levels column (String.ofList key) (opensBlock value) ∧
          (visitEntry levels index line column).2.keys = [entrySite levels index column (String.ofList key)] := by
  unfold visitEntry
  simp only
  cases plainEntry? (line.drop column) with
  | none => exact ⟨rfl, rfl⟩
  | some entry =>
      obtain ⟨key, value⟩ := entry
      simp only
      cases opens : opensBlock value with
      | true => exact ⟨rfl, rfl⟩
      | false => exact ⟨rfl, rfl⟩

theorem visit_line_shape (place : Place) (index : Nat) (line : List Char) :
    (visitLine place.levels index line).1 = (lineShape line).place place ∧
      (visitLine place.levels index line).2.keys = (lineShape line).keys index place.levels := by
  rw [visit_line_lead]
  unfold lineShape
  cases leadOf line with
  | entry dash column =>
      have entry := visit_entry_shape (levelsBelow dash place.levels) index column line
      simp only
      cases found : plainEntry? (line.drop column) with
      | none =>
          rw [found] at entry
          exact entry
      | some pair =>
          obtain ⟨key, value⟩ := pair
          rw [found] at entry
          exact entry
  | _ => exact ⟨rfl, rfl⟩

theorem visit_shape (place : Place) (index : Nat) (line : List Char) :
    (visit place index line).1 = (shapeOf (place.block.map OpenBlock.column) line).place place ∧
      (visit place index line).2.keys = (shapeOf (place.block.map OpenBlock.column) line).keys index place.levels := by
  unfold visit shapeOf
  cases place.block with
  | none => exact visit_line_shape place index line
  | some block =>
      simp only [Option.map_some]
      cases Text.allBlank line with
      | true => exact ⟨rfl, rfl⟩
      | false =>
          by_cases inside : block.column < indentOf line
          · simp only [inside, if_true, decide_true, Bool.or_true, Bool.false_eq_true, if_false]
            exact ⟨rfl, rfl⟩
          · simp only [inside, if_false, decide_false, Bool.or_false, Bool.false_eq_true]
            exact visit_line_shape place index line

def isKeyName : List Char → Bool
  | [] => false
  | c :: rest => Text.isNameStart c && rest.all isKeyCharacter

theorem identifier_key_name (name : List Char) (identifier : Text.isIdentifier name = true) : isKeyName name = true := by
  obtain ⟨c, letters, rfl, starts, words⟩ := Text.identifier_cases name identifier
  simp only [isKeyName, starts, Bool.true_and, List.all_eq_true]
  exact fun d member => word_is_key d (words d member)

theorem key_name_cases (name : List Char) (key : isKeyName name = true) :
    ∃ c rest, name = c :: rest ∧ Text.isNameStart c = true ∧ ∀ d ∈ rest, isKeyCharacter d = true := by
  cases name with
  | nil => cases key
  | cons c rest =>
      simp only [isKeyName, Bool.and_eq_true, List.all_eq_true] at key
      exact ⟨c, rest, rfl, key⟩

structure KeyTail (tail value : List Char) : Prop where
  ends : ∀ c ∈ tail.head?, isKeyCharacter c = false
  colon : colonValue? (tail.dropWhile isGap) = some value

theorem entry_of_key (key tail value : List Char) (name : isKeyName key = true) (behind : KeyTail tail value) :
    plainEntry? (key ++ tail) = some (key, value) := by
  obtain ⟨c, rest, rfl, starts, keys⟩ := key_name_cases key name
  have ends : tail.takeWhile isKeyCharacter = [] ∧ tail.dropWhile isKeyCharacter = tail := by
    cases tail with
    | nil => exact ⟨rfl, rfl⟩
    | cons d tail =>
        have ends := behind.ends d rfl
        exact ⟨by simp [ends], by simp [ends]⟩
  rw [List.cons_append, plain_entry_cons c _ starts, valueBehind?, List.dropWhile_append_of_pos keys, ends.2, behind.colon,
    List.takeWhile_append_of_pos keys, ends.1, List.append_nil]
  rfl

theorem key_of_entry (text key value : List Char) (entry : plainEntry? text = some (key, value)) :
    ∃ tail, text = key ++ tail ∧ isKeyName key = true ∧ KeyTail tail value := by
  cases text with
  | nil => cases entry
  | cons c rest =>
      by_cases starts : Text.isNameStart c = true
      · rw [plain_entry_cons c rest starts] at entry
        obtain ⟨found, value_found, same⟩ := Option.map_eq_some_iff.mp entry
        cases same
        refine ⟨rest.dropWhile isKeyCharacter, ?_, ?_, ⟨?_, value_found⟩⟩
        · rw [List.cons_append, List.takeWhile_append_dropWhile]
        · simp only [isKeyName, starts, Bool.true_and]
          exact List.all_takeWhile
        · intro d head
          have stopped := List.head?_dropWhile_not isKeyCharacter rest
          rw [head] at stopped
          exact stopped
      · simp [ plainEntry?, starts] at entry

theorem line_shape_renamed (line : List Char) (dash : Option Nat) (column : Nat) (key : String) (opens : Bool)
    (shape : lineShape line = .entry dash column key opens) :
    ∃ before tail, line = before ++ (key.toList ++ tail) ∧ before.length = column ∧ isKeyName key.toList = true ∧
      ∀ other : String, isKeyName other.toList = true →
        lineShape (before ++ (other.toList ++ tail)) = .entry dash column other opens := by
  unfold lineShape at shape
  split at shape
  · cases shape
  · cases shape
  · cases shape
  · rename_i found_dash found_column lead
    split at shape
    · cases shape
    · rename_i letters value entry
      cases shape
      obtain ⟨tail, text, name, behind⟩ := key_of_entry _ letters value entry
      have inside : (line.take column).length = column := by
        rcases Nat.le_total column line.length with short | long
        · rw [List.length_take, Nat.min_eq_left short]
        · rw [List.drop_eq_nil_of_le long] at text
          obtain ⟨c, rest, rfl, -⟩ := key_name_cases letters name
          cases text
      refine ⟨line.take column, tail, ?_, inside, by rw [String.toList_ofList]; exact name, fun other other_name => ?_⟩
      · rw [String.toList_ofList, ← text, List.take_append_drop]
      · have same_lead : leadOf (line.take column ++ (other.toList ++ tail)) = .entry dash column := by
          rw [← lead]
          have split : line = line.take column ++ (letters ++ tail) := by
            rw [← text, List.take_append_drop]
          obtain ⟨c, rest, rfl, starts, -⟩ := key_name_cases letters name
          obtain ⟨d, others, other_letters, also, -⟩ := key_name_cases other.toList other_name
          rw [other_letters]
          have before := (lead_before (line.take column) (others ++ tail) (rest ++ tail) d c also starts).1
          rw [List.cons_append, before]
          exact congrArg leadOf split.symm
        unfold lineShape
        rw [same_lead]
        simp only
        rw [List.drop_left' inside, entry_of_key other.toList tail value other_name behind]
        simp only [String.ofList_toList]

theorem shape_renamed (block : Option Nat) (line : List Char) (dash : Option Nat) (column : Nat) (key : String)
    (opens : Bool) (shape : shapeOf block line = .entry dash column key opens) :
    ∃ before tail, line = before ++ (key.toList ++ tail) ∧ before.length = column ∧ isKeyName key.toList = true ∧
      ∀ other : String, isKeyName other.toList = true →
        shapeOf block (before ++ (other.toList ++ tail)) = .entry dash column other opens := by
  cases block with
  | none => exact line_shape_renamed line dash column key opens shape
  | some limit =>
      unfold shapeOf at shape
      simp only at shape
      split at shape
      · cases shape
      · rename_i outside
        obtain ⟨before, tail, rfl, place, name, same⟩ := line_shape_renamed line dash column key opens shape
        refine ⟨before, tail, rfl, place, name, fun other other_name => ?_⟩
        obtain ⟨c, rest, letters, starts, -⟩ := key_name_cases key.toList name
        obtain ⟨d, others, other_letters, also, -⟩ := key_name_cases other.toList other_name
        have indent : indentOf (before ++ (other.toList ++ tail)) = indentOf (before ++ (key.toList ++ tail)) := by
          rw [letters, other_letters, List.cons_append, List.cons_append, indent_before before _ c starts,
            indent_before before _ d also]
        have inked : Text.allBlank (before ++ (other.toList ++ tail)) = false := by
          rw [other_letters]
          simp [Text.allBlank, Text.word_not_blank d (Text.isWord_of_isNameStart also)]
        simp only [Bool.or_eq_true, decide_eq_true_eq, not_or] at outside
        unfold shapeOf
        simp only
        rw [inked, indent, if_neg (by simpa using outside.2)]
        exact same other other_name

end PipelineLint.Repair
