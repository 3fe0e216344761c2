import PipelineLint.Proofs.Written

set_option autoImplicit false

namespace PipelineLint.Document

mutual

-- Two values that differ in the names of keys at most, and in texts that both hold a bracket.
inductive SameData : Value → Value → Prop where
  | scalar {s : Scalar} : SameData (.scalar s) (.scalar s)
  | text {s t : String} : '(' ∈ s.toList → '(' ∈ t.toList → SameData (.str s) (.str t)
  | list {items others : List Value} : SameItems items others → SameData (.list items) (.list others)
  | map {entries others : Entries} : SameEntries entries others → SameData (.map entries) (.map others)

inductive SameItems : List Value → List Value → Prop where
  | nil : SameItems [] []
  | cons {item other : Value} {items others : List Value} : SameData item other → SameItems items others →
      SameItems (item :: items) (other :: others)

inductive SameEntries : Entries → Entries → Prop where
  | nil : SameEntries [] []
  | cons {key name : Scalar} {value other : Value} {entries others : Entries} : SameData value other →
      SameEntries entries others → SameEntries ((key, value) :: entries) ((name, other) :: others)

end

mutual

-- The same with texts that differ only where calls may. A key that is a text stays one.
inductive Alike (calls : Prop) : Value → Value → Prop where
  | scalar {s : Scalar} : Alike calls (.scalar s) (.scalar s)
  | text {s t : String} : calls → '(' ∈ s.toList → '(' ∈ t.toList → Alike calls (.str s) (.str t)
  | list {items others : List Value} : AlikeItems calls items others → Alike calls (.list items) (.list others)
  | map {entries others : Entries} : AlikeEntries calls entries others → Alike calls (.map entries) (.map others)

inductive AlikeItems (calls : Prop) : List Value → List Value → Prop where
  | nil : AlikeItems calls [] []
  | cons {item other : Value} {items others : List Value} : Alike calls item other → AlikeItems calls items others →
      AlikeItems calls (item :: items) (other :: others)

inductive AlikeEntries (calls : Prop) : Entries → Entries → Prop where
  | nil : AlikeEntries calls [] []
  | cons {key name : Scalar} {value other : Value} {entries others : Entries} :
      (∀ old : String, key = .str old → ∃ new : String, name = .str new) → Alike calls value other →
      AlikeEntries calls entries others → AlikeEntries calls ((key, value) :: entries) ((name, other) :: others)

end

section Alike

variable {calls : Prop}

mutual

theorem alike_refl : (value : Value) → Alike calls value value
  | .scalar _ => .scalar
  | .list items => .list (alike_items_refl items)
  | .map entries => .map (alike_entries_refl entries)

theorem alike_items_refl : (items : List Value) → AlikeItems calls items items
  | [] => .nil
  | item :: items => .cons (alike_refl item) (alike_items_refl items)

theorem alike_entries_refl : (entries : Entries) → AlikeEntries calls entries entries
  | [] => .nil
  | (_, value) :: entries => .cons (fun old text => ⟨old, text⟩) (alike_refl value) (alike_entries_refl entries)

end

mutual

theorem alike_trans {first second : Value} :
    Alike calls first second → ∀ third, Alike calls second third → Alike calls first third
  | .scalar => fun _ onward => onward
  | .text allowed bracket other => fun _ onward => by
      cases onward with
      | scalar => exact .text allowed bracket other
      | text _ _ last => exact .text allowed bracket last
  | .list items => fun _ onward => by
      have items := alike_items_trans items
      cases onward with
      | list others => exact .list (items _ others)
  | .map entries => fun _ onward => by
      have entries := alike_entries_trans entries
      cases onward with
      | map others => exact .map (entries _ others)

theorem alike_items_trans {first second : List Value} :
    AlikeItems calls first second → ∀ third, AlikeItems calls second third → AlikeItems calls first third
  | .nil => fun _ onward => onward
  | .cons item items => fun _ onward => by
      have item := alike_trans item
      have items := alike_items_trans items
      cases onward with
      | cons other others => exact .cons (item _ other) (items _ others)

theorem alike_entries_trans {first second : Entries} :
    AlikeEntries calls first second → ∀ third, AlikeEntries calls second third → AlikeEntries calls first third
  | .nil => fun _ onward => onward
  | .cons text value entries => fun _ onward => by
      have value := alike_trans value
      have entries := alike_entries_trans entries
      cases onward with
      | cons still other others =>
          refine .cons (fun old same => ?_) (value _ other) (entries _ others)
          obtain ⟨new, named⟩ := text old same
          exact still new named

end

mutual

theorem alike_same {value other : Value} : Alike calls value other → SameData value other
  | .scalar => .scalar
  | .text _ bracket still => .text bracket still
  | .list items => .list (alike_items_same items)
  | .map entries => .map (alike_entries_same entries)

theorem alike_items_same {items others : List Value} : AlikeItems calls items others → SameItems items others
  | .nil => .nil
  | .cons item items => .cons (alike_same item) (alike_items_same items)

theorem alike_entries_same {entries others : Entries} : AlikeEntries calls entries others → SameEntries entries others
  | .nil => .nil
  | .cons _ value entries => .cons (alike_same value) (alike_entries_same entries)

end

end Alike

mutual

-- No mapping in a value has a key twice.
def Distinct : Value → Prop
  | .scalar _ => True
  | .list items => DistinctItems items
  | .map entries => KeysApart entries ∧ DistinctEntries entries

def DistinctItems : List Value → Prop
  | [] => True
  | item :: items => Distinct item ∧ DistinctItems items

def DistinctEntries : Entries → Prop
  | [] => True
  | (_, value) :: entries => Distinct value ∧ DistinctEntries entries

end

theorem keys_apart_nodup (entries : Entries) (apart : KeysApart entries) : (Entries.keys entries).Nodup := by
  refine List.Pairwise.imp (fun unlike same => ?_) apart
  rw [same, Scalar.sameKey_refl] at unlike
  cases unlike

theorem distinct_items_iff (items : List Value) : DistinctItems items ↔ ∀ item ∈ items, Distinct item := by
  induction items with
  | nil => simp [DistinctItems]
  | cons item items ih => rw [DistinctItems, ih, List.forall_mem_cons]

theorem distinct_entries_iff (entries : Entries) : DistinctEntries entries ↔ ∀ entry ∈ entries, Distinct entry.2 := by
  induction entries with
  | nil => simp [DistinctEntries]
  | cons entry entries ih => rw [DistinctEntries, ih, List.forall_mem_cons]

mutual

theorem distinct_merged : (value : Value) → Distinct value → merged value = value
  | .scalar _, _ => rfl
  | .list items, distinct => by rw [merged, distinct_items_merged items distinct]
  | .map entries, ⟨apart, distinct⟩ => by
      rw [merged, merged_entries_apart [] entries apart, distinct_entries_merged entries distinct, List.nil_append]

theorem distinct_items_merged : (items : List Value) → DistinctItems items → mergedItems items = items
  | [], _ => rfl
  | item :: items, ⟨first, others⟩ => by
      rw [mergedItems, distinct_merged item first, distinct_items_merged items others]

theorem distinct_entries_merged : (entries : Entries) → DistinctEntries entries →
    (entries.map fun entry => (entry.1, merged entry.2)) = entries
  | [], _ => rfl
  | (_, value) :: entries, ⟨first, others⟩ => by
      rw [List.map_cons, distinct_merged value first, distinct_entries_merged entries others]

end

theorem merged_entries_length (done entries : Entries) (apart : KeysApart done) :
    (mergedEntries done entries).length ≤ done.length + entries.length ∧
      ((mergedEntries done entries).length = done.length + entries.length → KeysApart (done ++ entries)) := by
  induction entries generalizing done with
  | nil => exact ⟨Nat.le_refl _, fun _ => by simpa using apart⟩
  | cons entry entries ih =>
      obtain ⟨key, value⟩ := entry
      by_cases again : (Entries.keys done).any (·.sameKey key) = true
      · have keys : Entries.keys (done.put key (merged value)) = Entries.keys done := by
          rw [Entries.keys_put, if_pos again]
        have lengths : (done.put key (merged value)).length = done.length := by
          simpa [Entries.keys] using congrArg List.length keys
        obtain ⟨bound, -⟩ := ih (done.put key (merged value)) (by rw [KeysApart, keys]; exact apart)
        rw [mergedEntries, List.length_cons]
        exact ⟨by omega, fun _ => by omega⟩
      · have new : ∀ old ∈ Entries.keys done, old.sameKey key = false := by simpa using again
        have longer : KeysApart (done ++ [(key, merged value)]) := by
          rw [KeysApart, Entries.keys, List.map_append, List.pairwise_append]
          exact ⟨apart, List.pairwise_singleton _ _, fun old member => List.forall_mem_singleton.mpr (new old member)⟩
        obtain ⟨bound, exact⟩ := ih (done ++ [(key, merged value)]) longer
        rw [List.length_append, List.length_singleton] at bound exact
        rw [mergedEntries, put_new done key (merged value) new, List.length_cons]
        refine ⟨by omega, fun lengths => ?_⟩
        simpa [KeysApart, Entries.keys] using exact (by omega)

theorem same_entries_length {entries others : Entries} : SameEntries entries others → entries.length = others.length
  | .nil => rfl
  | .cons _ more => congrArg Nat.succ (same_entries_length more)

mutual

theorem same_merged_distinct {value other : Value} : SameData value other → SameData value (merged other) → Distinct other
  | .scalar => fun _ => trivial
  | .text _ _ => fun _ => trivial
  | .list items => fun read => by
      have distinct := same_items_distinct items
      cases read with
      | list others => exact distinct others
  | .map entries => fun read => by
      have distinct := same_entries_distinct entries
      have lengths := same_entries_length entries
      cases read with
      | map others =>
          have apart := (merged_entries_length [] _ .nil).2 (by
            rw [← same_entries_length others, lengths, List.length_nil, Nat.zero_add])
          refine ⟨apart, distinct ?_⟩
          rw [merged_entries_apart [] _ apart] at others
          exact others

theorem same_items_distinct {items others : List Value} :
    SameItems items others → SameItems items (mergedItems others) → DistinctItems others
  | .nil => fun _ => trivial
  | .cons item items => fun read => by
      have first := same_merged_distinct item
      have rest := same_items_distinct items
      cases read with
      | cons other others => exact ⟨first other, rest others⟩

theorem same_entries_distinct {entries others : Entries} : SameEntries entries others →
    SameEntries entries (others.map fun entry => (entry.1, merged entry.2)) → DistinctEntries others
  | .nil => fun _ => trivial
  | .cons value entries => fun read => by
      have first := same_merged_distinct value
      have rest := same_entries_distinct entries
      cases read with
      | cons other others => exact ⟨first other, rest others⟩

end

-- Reading keeps the data if and only if every key is there once.
theorem same_merged_iff (value other : Value) (same : SameData value other) : SameData value (merged other) ↔ Distinct other := by
  refine ⟨same_merged_distinct same, fun distinct => ?_⟩
  rw [distinct_merged other distinct]
  exact same

end PipelineLint.Document
