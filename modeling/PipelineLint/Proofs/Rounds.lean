import PipelineLint.Proofs.KeyRenames

set_option autoImplicit false

namespace PipelineLint.Repair

-- The pass in which a key is renamed, counted from one, and its name from then on.
def renaming? (key : String) (above : List Level) : Option (Nat × String) :=
  if Catalog.isMetadata key then none
  else
    match componentCategory? above with
    | some category => (Catalog.componentReplacement? key category).map (1, ·)
    | none =>
        match above with
        | .item :: .key owner :: outer =>
            match renaming? owner outer with
            | some (pass, name) =>
                (listCategories.lookup name).bind fun category =>
                  (Catalog.componentReplacement? key category).map (pass + 1, ·)
            | none => none
        | _ => none

theorem owner_not_replaced (owner : String) (above : List Level) (holds : owner ∈ Catalog.owners) :
    keyReplacement? owner above = none := by
  unfold keyReplacement?
  split
  · rfl
  · refine Option.bind_eq_none_iff.mpr fun category _ => ?_
    exact Catalog.owner_kept owner holds category (Category.mem_all category)

theorem list_owner_kept (owner : String) (above : List Level) (category : Category)
    (found : listCategories.lookup owner = some category) : advancedName owner above = owner := by
  have holds : owner ∈ Catalog.owners := by
    rw [Catalog.owners, List.map_append]
    exact List.mem_append_left _ (List.mem_map_of_mem (Catalog.lookup_entry _ owner category found))
  rw [advancedName, owner_not_replaced owner above holds]
  rfl

theorem section_advanced (owner : String) (above : List Level) :
    sectionCategories.lookup (advancedName owner above) = sectionCategories.lookup owner := by
  cases replaced : keyReplacement? owner above with
  | none => rw [advancedName, replaced, Option.getD_none]
  | some target =>
      have known : sectionCategories.lookup target = none := by
        unfold keyReplacement? at replaced
        split at replaced
        · cases replaced
        · obtain ⟨category, -, found⟩ := Option.bind_eq_some_iff.mp replaced
          exact Catalog.known_not_section target category (Catalog.component_replacement_known owner target category found)
      rw [advancedName, replaced, Option.getD_some, known]
      cases found : sectionCategories.lookup owner with
      | none => rfl
      | some category =>
          have holds : owner ∈ Catalog.owners := by
            rw [Catalog.owners, List.map_append]
            exact List.mem_append_right _ (List.mem_map_of_mem (Catalog.lookup_entry _ owner category found))
          rw [owner_not_replaced owner above holds] at replaced
          cases replaced

-- A rename is due at once, or one pass behind that of the key that holds the list.
theorem renaming_cases (key name : String) (above : List Level) (pass : Nat)
    (due : renaming? key above = some (pass, name)) :
    pass = 1 ∨ ∃ owner outer earlier held, above = .item :: .key owner :: outer ∧
      renaming? owner outer = some (earlier, held) ∧ pass = earlier + 1 := by
  unfold renaming? at due
  split at due
  · cases due
  · split at due
    · obtain ⟨target, -, same⟩ := Option.map_eq_some_iff.mp due
      cases same
      exact .inl rfl
    · split at due
      · rename_i owner outer _
        split at due
        · rename_i earlier held waits
          obtain ⟨category, -, mapped⟩ := Option.bind_eq_some_iff.mp due
          obtain ⟨target, -, same⟩ := Option.map_eq_some_iff.mp mapped
          cases same
          exact .inr ⟨owner, outer, earlier, held, rfl, waits, rfl⟩
        · cases due
      · cases due

theorem renaming_positive (key name : String) (above : List Level) (pass : Nat)
    (due : renaming? key above = some (pass, name)) : 1 ≤ pass := by
  rcases renaming_cases key name above pass due with rfl | ⟨_, _, earlier, _, _, _, rfl⟩
  · exact Nat.le_refl 1
  · exact Nat.le_add_left 1 earlier

theorem renaming_due (key name : String) (above : List Level) :
    renaming? key above = some (1, name) ↔ keyReplacement? key above = some name := by
  unfold renaming? keyReplacement?
  by_cases metadata : Catalog.isMetadata key = true
  · simp [metadata]
  · rw [if_neg metadata, if_neg metadata]
    cases componentCategory? above with
    | some category => simp
    | none =>
        simp only [Option.bind_none, reduceCtorEq, iff_false]
        intro found
        split at found
        · split at found
          · rename_i owner outer _ pass held waits
            obtain ⟨category, -, mapped⟩ := Option.bind_eq_some_iff.mp found
            obtain ⟨target, -, same⟩ := Option.map_eq_some_iff.mp mapped
            have late := renaming_positive _ _ _ _ waits
            simp only [Prod.mk.injEq] at same
            omega
          · cases found
        · cases found

theorem advanced_due (key name : String) (above : List Level) (due : renaming? key above = some (1, name)) :
    advancedName key above = name := by
  rw [advancedName, (renaming_due key name above).mp due]
  rfl

theorem advanced_waiting (key : String) (above : List Level) (waits : ∀ name, renaming? key above ≠ some (1, name)) :
    advancedName key above = key := by
  rw [advancedName]
  cases replaced : keyReplacement? key above with
  | none => rfl
  | some name => exact absurd ((renaming_due key name above).mpr replaced) (waits name)

def nearer (due : Option (Nat × String)) : Option (Nat × String) :=
  due.bind fun (pass, name) => if pass ≤ 1 then none else some (pass - 1, name)

theorem renaming_metadata (key : String) (above : List Level) (metadata : Catalog.isMetadata key = true) :
    renaming? key above = none := by
  unfold renaming?
  rw [if_pos metadata]

theorem renaming_category (key : String) (above : List Level) (category : Category)
    (here : componentCategory? above = some category) (free : ¬ Catalog.isMetadata key = true) :
    renaming? key above = (Catalog.componentReplacement? key category).map (1, ·) := by
  unfold renaming?
  rw [if_neg free, here]

theorem advanced_metadata (key : String) (above : List Level) (metadata : Catalog.isMetadata key = true) :
    advancedName key above = key := by
  simp [advancedName, keyReplacement?, metadata]

theorem advanced_no_category (key : String) (above : List Level) (nowhere : componentCategory? above = none) :
    advancedName key above = key := by
  simp [advancedName, keyReplacement?, nowhere]

theorem renaming_advanced_known (key : String) (above : List Level) (category : Category)
    (here : componentCategory? above = some category) (still : componentCategory? (advance above) = some category) :
    renaming? (advancedName key above) (advance above) = nearer (renaming? key above) := by
  by_cases metadata : Catalog.isMetadata key = true
  · rw [advanced_metadata key above metadata, renaming_metadata key _ metadata, renaming_metadata key _ metadata]
    rfl
  · rw [renaming_category key above category here metadata]
    have name : advancedName key above = (Catalog.componentReplacement? key category).getD key := by
      simp [advancedName, keyReplacement?, metadata, here]
    rw [name]
    have never (other : String) (final : Catalog.componentReplacement? other category = none) :
        renaming? other (advance above) = none := by
      by_cases also : Catalog.isMetadata other = true
      · exact renaming_metadata other _ also
      · rw [renaming_category other _ category still also, final]
        rfl
    cases replaced : Catalog.componentReplacement? key category with
    | none => exact never key replaced
    | some target =>
        exact never target (Catalog.component_replacement_of_known target category
          (Catalog.component_replacement_known key target category replaced))

theorem renaming_nowhere (key : String) (above : List Level) (nowhere : componentCategory? above = none)
    (no_item : ∀ owner outer, above ≠ .item :: .key owner :: outer) : renaming? key above = none := by
  rw [renaming?, nowhere]
  · split <;> rfl
  · exact fun owner outer same => no_item owner outer same

theorem renaming_advanced_still (key : String) (above : List Level)
    (still : componentCategory? (advance above) = componentCategory? above)
    (no_item : ∀ owner outer, above ≠ .item :: .key owner :: outer)
    (later : ∀ owner outer, advance above ≠ .item :: .key owner :: outer) :
    renaming? (advancedName key above) (advance above) = nearer (renaming? key above) := by
  cases known : componentCategory? above with
  | some category =>
      rw [known] at still
      exact renaming_advanced_known key above category known still
  | none =>
      rw [known] at still
      rw [renaming_nowhere _ _ still later, renaming_nowhere _ _ known no_item]
      rfl

theorem renaming_held (key owner : String) (outer : List Level) (unknown : listCategories.lookup owner = none) :
    renaming? key (.item :: .key owner :: outer) =
      if Catalog.isMetadata key then none
      else
        (renaming? owner outer).bind fun (pass, name) =>
          (listCategories.lookup name).bind fun category =>
            (Catalog.componentReplacement? key category).map (pass + 1, ·) := by
  have nowhere : componentCategory? (.item :: .key owner :: outer) = none := unknown
  rw [renaming?, nowhere]
  cases renaming? owner outer <;> rfl

theorem renaming_advanced_held (key owner : String) (outer : List Level) (unknown : listCategories.lookup owner = none)
    (holder : renaming? (advancedName owner outer) (advance outer) = nearer (renaming? owner outer)) :
    renaming? key (.item :: .key (advancedName owner outer) :: advance outer) =
      nearer (renaming? key (.item :: .key owner :: outer)) := by
  rw [renaming_held key owner outer unknown]
  by_cases metadata : Catalog.isMetadata key = true
  · rw [renaming_metadata key _ metadata, if_pos metadata]
    rfl
  · rw [if_neg metadata]
    cases due : renaming? owner outer with
    | none =>
        have kept := advanced_waiting owner outer (by simp [due])
        rw [due, kept] at holder
        rw [kept, renaming_held key owner (advance outer) unknown, holder, if_neg metadata]
        rfl
    | some pair =>
        obtain ⟨pass, name⟩ := pair
        have positive := renaming_positive owner name outer pass due
        rw [due] at holder
        by_cases first : pass = 1
        · subst first
          rw [advanced_due owner name outer due] at holder ⊢
          cases held : listCategories.lookup name with
          | some category =>
              rw [renaming_category key (.item :: .key name :: advance outer) category held metadata]
              simp only [Option.bind_some, held]
              cases Catalog.componentReplacement? key category <;> rfl
          | none =>
              rw [renaming_held key name (advance outer) held, holder, if_neg metadata]
              simp [nearer, held]
        · have kept := advanced_waiting owner outer (by simp [due, first])
          have later : ¬ pass ≤ 1 := by omega
          have soon : nearer (some (pass, name)) = some (pass - 1, name) := by simp [nearer, later]
          have next : pass - 1 + 1 = pass := by omega
          rw [kept, soon] at holder
          rw [kept, renaming_held key owner (advance outer) unknown, holder, if_neg metadata]
          simp only [Option.bind_some]
          cases listCategories.lookup name with
          | none => rfl
          | some category =>
              simp only [Option.bind_some, next]
              cases Catalog.componentReplacement? key category with
              | none => rfl
              | some target => simp [nearer, show ¬ pass + 1 ≤ 1 by omega]

-- A pass brings every rename one pass nearer.
theorem renaming_advanced (key : String) (above : List Level) :
    renaming? (advancedName key above) (advance above) = nearer (renaming? key above) := by
  match above with
  | [] => exact renaming_advanced_still key _ rfl (by simp) (by simp [advance])
  | [.item] => exact renaming_advanced_still key _ rfl (by simp) (by simp [advance])
  | .item :: .item :: outer => exact renaming_advanced_still key _ rfl (by simp) (by simp [advance])
  | .item :: .key owner :: outer =>
      cases known : listCategories.lookup owner with
      | some category =>
          have kept := list_owner_kept owner outer category known
          refine renaming_advanced_known key _ category known ?_
          rw [advance, advance, kept]
          exact known
      | none =>
          have nowhere : componentCategory? (.item :: .key owner :: outer) = none := known
          rw [advanced_no_category key _ nowhere]
          exact renaming_advanced_held key owner outer known (renaming_advanced owner outer)
  | [.key owner] =>
      exact renaming_advanced_still key _ (section_advanced owner []) (by simp) (by simp [advance])
  | .key owner :: .item :: outer =>
      exact renaming_advanced_still key _ (section_advanced owner (.item :: outer)) (by simp) (by simp [advance])
  | .key owner :: .key next :: outer =>
      exact renaming_advanced_still key _ rfl (by simp) (by simp [advance])

theorem renaming_bound (key name : String) (above : List Level) (pass : Nat)
    (due : renaming? key above = some (pass, name)) : 2 * pass ≤ above.length + 2 := by
  rcases renaming_cases key name above pass due with rfl | ⟨owner, outer, earlier, held, rfl, waits, rfl⟩
  · exact Nat.le_add_left 2 above.length
  · have bound := renaming_bound owner held outer earlier waits
    simp only [List.length_cons]
    omega
termination_by above.length

def nestedLevels : (depth : Nat) → List Level
  | 0 => [.item, .key "processors", .key "pipeline"]
  | depth + 1 => .item :: .key "TRY" :: nestedLevels depth

-- There is no bound on the passes that a document may take.
theorem nested_renaming (depth : Nat) : renaming? "TRY" (nestedLevels depth) = some (depth + 1, "try") := by
  have replaced : Catalog.componentReplacement? "TRY" .processor = some "try" := by decide +kernel
  have free : ¬ Catalog.isMetadata "TRY" = true := by decide
  induction depth with
  | zero =>
      rw [renaming_category "TRY" (nestedLevels 0) .processor rfl free, replaced]
      rfl
  | succ depth ih =>
      have no_list : listCategories.lookup "TRY" = none := by decide
      have list : listCategories.lookup "try" = some .processor := by decide
      rw [nestedLevels, renaming_held "TRY" "TRY" (nestedLevels depth) no_list, if_neg free, ih]
      simp only [Option.bind_some, list, replaced, Option.map_some]

end PipelineLint.Repair
