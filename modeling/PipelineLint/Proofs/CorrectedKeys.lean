import PipelineLint.Proofs.Convergence
import PipelineLint.Proofs.KeyPaths
import PipelineLint.Proofs.ReportedTypes

set_option autoImplicit false

namespace PipelineLint.Repair

open Document

def nameAfter (count : Nat) (key : String) (above : List Level) : String :=
  match renaming? key above with
  | some (pass, name) => if pass ≤ count then name else key
  | none => key

theorem name_after_never (count : Nat) (key : String) (above : List Level) (never : renaming? key above = none) :
    nameAfter count key above = key := by
  rw [nameAfter, never]

theorem name_after_cases (count : Nat) (key : String) (above : List Level) :
    nameAfter count key above = key ∨
      ∃ pass, pass ≤ count ∧ renaming? key above = some (pass, nameAfter count key above) := by
  cases due : renaming? key above with
  | none => exact .inl (name_after_never count key above due)
  | some pair =>
      obtain ⟨pass, name⟩ := pair
      rw [nameAfter, due]
      by_cases done : pass ≤ count
      · exact .inr ⟨pass, done, by simp [if_pos done]⟩
      · exact .inl (by simp [if_neg done])

theorem name_after_none (key : String) (above : List Level) : nameAfter 0 key above = key := by
  rcases name_after_cases 0 key above with kept | ⟨pass, done, due⟩
  · exact kept
  · have positive := renaming_positive _ _ _ _ due
    omega

theorem name_after_pass (count : Nat) (key : String) (above : List Level) :
    nameAfter count (advancedName key above) (advance above) = nameAfter (count + 1) key above := by
  unfold nameAfter
  rw [renaming_advanced]
  cases due : renaming? key above with
  | none => rw [advanced_waiting key above (by simp [due])]; rfl
  | some pair =>
      obtain ⟨pass, name⟩ := pair
      have positive := renaming_positive _ _ _ _ due
      by_cases first : pass ≤ 1
      · obtain rfl : pass = 1 := by omega
        simp [nearer, advanced_due key name above due]
      · have kept := advanced_waiting key above (by rw [due]; simp; omega)
        simp only [nearer, Option.bind_some, if_neg first, kept]
        exact if_congr (by omega) rfl rfl

theorem passed_names (count : Nat) (lines : Lines) (settled : OutlineSettled (sites lines).keys) :
    (sites (passed count lines)).keys.map KeySite.key =
      (sites lines).keys.map fun site => nameAfter count site.key site.above := by
  induction count generalizing lines with
  | zero => exact List.map_congr_left fun site _ => (name_after_none site.key site.above).symm
  | succ count ih =>
      rw [passed, ih _ (pass_outline lines), pass_keys, fix_outline_idle lines settled, List.map_map]
      exact List.map_congr_left fun site _ => name_after_pass count site.key site.above

def keyAfter (count : Nat) (above : List Level) : Scalar → Scalar
  | .str key => .str (nameAfter count key above)
  | key => key

mutual

-- A value below some levels with the names that its keys have after a number of passes.
def valueAfter (count : Nat) (above : List Level) : Value → Value
  | .scalar s => .scalar s
  | .list items => .list (itemsAfter count above items)
  | .map entries => .map (entriesAfter count above entries)

def itemsAfter (count : Nat) (above : List Level) : List Value → List Value
  | [] => []
  | item :: items => valueAfter count (.item :: above) item :: itemsAfter count above items

def entriesAfter (count : Nat) (above : List Level) : Entries → Entries
  | [] => []
  | (key, value) :: entries =>
      (keyAfter count above key, valueAfter count (.key key.display :: above) value) :: entriesAfter count above entries

end

section Corrected

variable (count : Nat) (above : List Level)

theorem items_after_map (items : List Value) :
    itemsAfter count above items = items.map (valueAfter count (.item :: above)) := by
  induction items with
  | nil => rfl
  | cons item items ih => rw [itemsAfter, List.map_cons, ih]

theorem entries_after_map (entries : Entries) : entriesAfter count above entries =
    entries.map fun entry => (keyAfter count above entry.1, valueAfter count (.key entry.1.display :: above) entry.2) := by
  induction entries with
  | nil => rfl
  | cons entry entries ih => rw [entriesAfter, List.map_cons, ih]

theorem entries_after_keys (entries : Entries) :
    Entries.keys (entriesAfter count above entries) = (Entries.keys entries).map (keyAfter count above) := by
  rw [entries_after_map, Entries.keys, Entries.keys, List.map_map, List.map_map]
  rfl

end Corrected

def namesBelow (paths : List KeyPath) : List String :=
  paths.map Prod.fst

def namesAfter (count : Nat) (paths : List KeyPath) : List String :=
  paths.map fun path => nameAfter count path.1 path.2

mutual

theorem alike_paths_length {calls : Prop} {value other : Value} : Alike calls value other → ∀ above outer : List Level,
    (keyPaths above value).length = (keyPaths outer other).length
  | .scalar => fun _ _ => rfl
  | .text _ _ _ => fun _ _ => rfl
  | .list items => alike_item_paths_length items
  | .map entries => alike_entry_paths_length entries

theorem alike_item_paths_length {calls : Prop} {items others : List Value} : AlikeItems calls items others →
    ∀ above outer : List Level, (itemPaths above items).length = (itemPaths outer others).length
  | .nil => fun _ _ => rfl
  | .cons item items => fun above outer => by
      have first := alike_paths_length item (.item :: above) (.item :: outer)
      have others := alike_item_paths_length items above outer
      rw [itemPaths, itemPaths, List.length_append, List.length_append, first, others]

theorem alike_entry_paths_length {calls : Prop} {entries others : Entries} : AlikeEntries calls entries others →
    ∀ above outer : List Level, (entryPaths above entries).length = (entryPaths outer others).length
  | .nil => fun _ _ => rfl
  | @AlikeEntries.cons _ key name _ _ _ _ _ value entries => fun above outer => by
      have first := alike_paths_length value (.key key.display :: above) (.key name.display :: outer)
      have others := alike_entry_paths_length entries above outer
      simp only [entryPaths, List.length_cons, List.length_append, first, others]

end

theorem writable_items (items : List Value) (writable : Writable (.list items)) : ∀ item ∈ items, Writable item := by
  cases writable with
  | inline _ text inline => exact inline_items items text inline
  | list _ inner _ => exact inner

theorem names_apart {paths others more later : List KeyPath} (count : Nat) (lengths : others.length = paths.length)
    (names : namesBelow (paths ++ more) = namesAfter count (others ++ later)) :
    namesBelow paths = namesAfter count others ∧ namesBelow more = namesAfter count later := by
  unfold namesBelow namesAfter at names ⊢
  rw [List.map_append, List.map_append] at names
  exact List.append_inj names (by rw [List.length_map, List.length_map, lengths])

mutual

-- A value like another one that has the names of its keys after some passes is that value with the keys renamed.
theorem alike_corrected (count : Nat) {value other : Value} : Alike False value other → Writable value →
    ∀ above outer : List Level, namesBelow (keyPaths outer other) = namesAfter count (keyPaths above value) →
      other = valueAfter count above value
  | .scalar => fun _ _ _ _ => rfl
  | .text never _ _ => never.elim
  | .list items => fun writable above outer names => by
      rw [valueAfter, alike_items_corrected count items (writable_items _ writable) above outer names]
  | .map entries => fun writable above outer names => by
      obtain ⟨texts, -, inner⟩ := writable_keys _ writable
      rw [valueAfter, alike_entries_corrected count entries texts inner above outer names]

theorem alike_items_corrected (count : Nat) {items others : List Value} : AlikeItems False items others →
    (∀ item ∈ items, Writable item) → ∀ above outer : List Level,
      namesBelow (itemPaths outer others) = namesAfter count (itemPaths above items) →
        others = itemsAfter count above items
  | .nil => fun _ _ _ _ => rfl
  | .cons item items => fun inner above outer names => by
      obtain ⟨first, rest⟩ := List.forall_mem_cons.mp inner
      obtain ⟨here, later⟩ := names_apart count (alike_paths_length item _ _) names
      rw [itemsAfter, alike_corrected count item first _ _ here, alike_items_corrected count items rest above outer later]

theorem alike_entries_corrected (count : Nat) {entries others : Entries} : AlikeEntries False entries others →
    (∀ entry ∈ entries, ∃ key : String, entry.1 = .str key) → (∀ entry ∈ entries, Writable entry.2) →
      ∀ above outer : List Level, namesBelow (entryPaths outer others) = namesAfter count (entryPaths above entries) →
        others = entriesAfter count above entries
  | .nil => fun _ _ _ _ _ => rfl
  | .cons text value entries => fun every inner above outer names => by
      obtain ⟨⟨old, rfl⟩, texts⟩ := List.forall_mem_cons.mp every
      obtain ⟨first, rest⟩ := List.forall_mem_cons.mp inner
      obtain ⟨new, rfl⟩ := text old rfl
      obtain ⟨name, names⟩ := List.cons.inj names
      obtain ⟨here, later⟩ := names_apart count (alike_paths_length value _ _) names
      rw [entriesAfter, ← alike_corrected count value first _ _ here,
        ← alike_entries_corrected count entries texts rest above outer later]
      exact congrArg (fun name => (Scalar.str name, _) :: _) name

end

mutual

theorem alike_apart {calls : Prop} {value other : Value} : Alike calls value other → ListsApart value → ListsApart other
  | .scalar => fun apart => apart
  | .text _ _ _ => fun _ => trivial
  | .list items => alike_items_apart items
  | .map entries => alike_entries_apart entries

theorem alike_items_apart {calls : Prop} {items others : List Value} :
    AlikeItems calls items others → ItemsApart items → ItemsApart others
  | .nil => fun apart => apart
  | .cons item items => fun ⟨no_list, inner, rest⟩ => by
      refine ⟨?_, alike_apart item inner, alike_items_apart items rest⟩
      cases item with
      | list _ => cases no_list
      | _ => rfl

theorem alike_entries_apart {calls : Prop} {entries others : Entries} :
    AlikeEntries calls entries others → EntriesApart entries → EntriesApart others
  | .nil => fun apart => apart
  | .cons _ value entries => fun ⟨inner, rest⟩ => ⟨alike_apart value inner, alike_entries_apart entries rest⟩

end

theorem repaired_rows (count column : Nat) (value : Value) (rows : List Row) (lines : Lines) (writable : Writable value)
    (apart : ListsApart value) (written : BlockRows column value rows) (laid : LaidOut rows lines)
    (settled : OutlineSettled (sites lines).keys)
    (no_call : ∀ fix ∈ (repairWithin count (String.ofList (Text.joinFeeds lines))).fixes, ¬ IsCallFix fix) :
    (repairWithin count (String.ofList (Text.joinFeeds lines))).text = String.ofList (Text.joinFeeds (passed count lines)) ∧
      ∃ column rows, BlockRows column (valueAfter count [] value) rows ∧ LaidOut rows (passed count lines) := by
  have are := written_are_lines column value rows lines written laid
  obtain ⟨text, indent, others, other, alike, again, still⟩ :=
    repaired_renders False column value rows lines written laid count no_call
  have before := laid_out_paths column value rows lines written laid apart
  have after := laid_out_paths indent other others _ again still (alike_apart alike apart)
  rw [split_join_feeds lines are] at before
  rw [split_join_feeds _ (passed_lines count lines are)] at after
  have names : namesBelow (keyPaths [] other) = namesAfter count (keyPaths [] value) := by
    rw [← after, ← before, namesBelow, namesAfter, List.map_map, List.map_map]
    exact passed_names count lines settled
  obtain rfl := alike_corrected count alike writable [] [] names
  exact ⟨text, indent, others, again, still⟩

end PipelineLint.Repair
