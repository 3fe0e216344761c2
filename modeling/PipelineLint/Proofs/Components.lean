import PipelineLint.Proofs.Outcomes
import PipelineLint.Validation.Component

set_option autoImplicit false

namespace PipelineLint

namespace Catalog

def TypeIsReadable (entries : Entries) : Prop :=
  ∀ front key value back, entries = front ++ (key, value) :: back →
    (∀ entry ∈ front, ∃ name, entry.1 = .str name ∧ isMetadata name = true) → ∃ name, key = .str name

theorem type_is_readable_cons (name : String) (value : Value) (rest : Entries) (metadata : isMetadata name = true) :
    TypeIsReadable ((.str name, value) :: rest) ↔ TypeIsReadable rest := by
  constructor
  · intro readable front key held back split skipped
    refine readable ((.str name, value) :: front) key held back (by rw [split]; rfl) ?_
    intro entry member
    rcases List.mem_cons.mp member with same | later
    · exact ⟨name, by rw [same], metadata⟩
    · exact skipped entry later
  · intro readable front key held back split skipped
    cases front with
    | nil =>
        obtain ⟨same, -⟩ := List.cons.inj split
        exact ⟨name, (congrArg Prod.fst same).symm⟩
    | cons entry front =>
        obtain ⟨-, split⟩ := List.cons.inj split
        exact readable front key held back split fun entry member => skipped entry (List.mem_cons_of_mem _ member)

theorem first_type_answers (entries : Entries) :
    (∃ type, firstType? (Entries.keys entries) = .ok type) ↔ TypeIsReadable entries := by
  induction entries with
  | nil =>
      refine ⟨fun _ front key value back split => ?_, fun _ => ⟨none, rfl⟩⟩
      exact absurd split (by simp)
  | cons entry rest ih =>
      obtain ⟨key, value⟩ := entry
      cases key with
      | str name =>
          by_cases metadata : isMetadata name = true
          · rw [type_is_readable_cons name value rest metadata, ← ih]
            simp [Entries.keys, firstType?, metadata]
          · refine ⟨fun _ front key held back split skipped => ?_, fun _ => ⟨some name, ?_⟩⟩
            · cases front with
              | nil => exact ⟨name, (congrArg Prod.fst (List.cons.inj split).1).symm⟩
              | cons entry front =>
                  obtain ⟨other, same, skips⟩ := skipped entry List.mem_cons_self
                  rw [← (List.cons.inj split).1] at same
                  cases same
                  exact absurd skips metadata
            · simp [Entries.keys, firstType?, metadata]
      | _ =>
          constructor
          · rintro ⟨type, found⟩
            simp [Entries.keys, firstType?] at found
          · intro readable
            obtain ⟨name, same⟩ := readable [] _ value rest rfl (by simp)
            cases same

theorem component_type_answers (entries : Entries) :
    (∃ type, componentType entries = .ok type) ↔ TypeIsReadable entries := by
  rw [← first_type_answers]
  unfold componentType
  cases firstType? (Entries.keys entries) with
  | error fault => simp
  | ok type => cases type <;> simp

end Catalog

namespace Validation

-- The components that stand directly in a component: beside its type, and within the value of a type that is known.
def Slot.inner (slot : Slot) : List Slot :=
  match slot.value with
  | .map entries =>
      match Catalog.componentType entries with
      | .ok (some type) =>
          slotsBeside slot.path slot.category entries ++
            if Catalog.isKnown type slot.category then
              slotsWithin (keyed slot.path type) slot.category type (Entries.fieldOrNull entries type)
            else []
      | _ => []
  | _ => []

inductive Visits (root : Slot) : Slot → Prop where
  | root : Visits root root
  | inner (outer slot : Slot) (previous : Visits root outer) (stands : slot ∈ outer.inner) : Visits root slot

theorem visits_inner (root first slot : Slot) (stands : first ∈ root.inner) (visited : Visits first slot) :
    Visits root slot := by
  induction visited with
  | root => exact .inner root first .root stands
  | inner outer slot _ below ih => exact .inner outer slot ih below

theorem visits_iff (root slot : Slot) : Visits root slot ↔ slot = root ∨ ∃ first ∈ root.inner, Visits first slot := by
  constructor
  · intro visited
    induction visited with
    | root => exact .inl rfl
    | inner outer slot _ stands ih =>
        rcases ih with rfl | ⟨first, below, between⟩
        · exact .inr ⟨slot, stands, .root⟩
        · exact .inr ⟨first, below, .inner outer slot between stands⟩
  · rintro (rfl | ⟨first, stands, visited⟩)
    · exact .root
    · exact visits_inner root first slot stands visited

theorem inner_smaller (slot part : Slot) (stands : part ∈ slot.inner) : sizeOf part.value < sizeOf slot.value := by
  unfold Slot.inner at stands
  split at stands
  · rename_i entries shape
    rw [shape]
    have inside : sizeOf part.value < sizeOf entries := by
      split at stands
      · rcases List.mem_append.mp stands with beside | within
        · exact sizeOf_slotsBeside beside
        · split at within
          · exact sizeOf_slotsWithin_field within
          · simp at within
      · simp at stands
    exact Nat.lt_trans inside (by simp)
  · simp at stands

def Slot.IsReadable (slot : Slot) : Prop :=
  ∀ entries, slot.value = .map entries → Catalog.TypeIsReadable entries

theorem slots_problems_answer (slots : List Slot) :
    (∃ problems, slotsProblems slots = .ok problems) ↔ ∀ slot ∈ slots, ∃ problems, slotProblems slot = .ok problems := by
  induction slots with
  | nil => exact ⟨by simp, fun _ => ⟨[], rfl⟩⟩
  | cons slot rest ih =>
      rw [List.forall_mem_cons, ← ih, slotsProblems]
      cases slotProblems slot with
      | error fault => simp [bind, Except.bind]
      | ok first => cases slotsProblems rest <;> simp [bind, Except.bind, pure, Except.pure]

theorem slots_problems_append (first second : List Slot) :
    (∃ problems, slotsProblems (first ++ second) = .ok problems) ↔
      (∃ problems, slotsProblems first = .ok problems) ∧ ∃ problems, slotsProblems second = .ok problems := by
  simp only [slots_problems_answer, List.forall_mem_append]

theorem slot_problems_step (slot : Slot) :
    (∃ problems, slotProblems slot = .ok problems) ↔
      slot.IsReadable ∧ ∃ problems, slotsProblems slot.inner = .ok problems := by
  obtain ⟨path, category, value⟩ := slot
  cases value with
  | scalar s => simp [slotProblems, Slot.IsReadable, Slot.inner, slotsProblems]
  | list items => simp [slotProblems, Slot.IsReadable, Slot.inner, slotsProblems]
  | map entries =>
      have readable : (Slot.mk path category (.map entries)).IsReadable ↔
          ∃ type, Catalog.componentType entries = .ok type := by
        rw [Catalog.component_type_answers]
        exact ⟨fun all => all entries rfl, fun one other same => Value.map.inj same ▸ one⟩
      rw [readable, slotProblems, Slot.inner]
      simp only [allProblems_eq]
      cases Catalog.componentType entries with
      | error fault => simp
      | ok type =>
          cases type with
          | none => simp [slotsProblems]
          | some type =>
              rw [slots_problems_append]
              cases beside : slotsProblems (slotsBeside path category entries) with
              | error fault => simp [bind, Except.bind]
              | ok problems =>
                  by_cases known : Catalog.isKnown type category = true
                  · simp only [known, if_true]
                    cases within : slotsProblems (slotsWithin (keyed path type) category type
                        (Entries.fieldOrNull entries type)) <;>
                      simp [bind, Except.bind, pure, Except.pure]
                  · simp [known, slotsProblems, bind, Except.bind, pure, Except.pure]

theorem slot_problems_answer (slot : Slot) :
    (∃ problems, slotProblems slot = .ok problems) ↔ ∀ part, Visits slot part → part.IsReadable := by
  -- The induction is on the size of the value; what stands in a component is smaller than it.
  induction size : sizeOf slot.value using Nat.strongRecOn generalizing slot with
  | ind bound ih =>
      rw [slot_problems_step, slots_problems_answer]
      constructor
      · rintro ⟨readable, within⟩ part visited
        rcases (visits_iff slot part).mp visited with rfl | ⟨first, stands, between⟩
        · exact readable
        · exact (ih _ (size ▸ inner_smaller slot first stands) first rfl).mp (within first stands) part between
      · intro readable
        refine ⟨readable slot .root, fun first stands => ?_⟩
        refine (ih _ (size ▸ inner_smaller slot first stands) first rfl).mpr fun part visited => ?_
        exact readable part (visits_inner slot first part stands visited)

end Validation

end PipelineLint
