import Mathlib.Data.List.Perm.Basic

set_option autoImplicit false

namespace PipelineLint

variable {α β γ ε : Type}

theorem bound_ok (first : Except ε α) (next : α → Except ε β) (result : β) (found : first >>= next = .ok result) :
    ∃ value, first = .ok value ∧ next value = .ok result := by
  cases first with
  | error fault => cases found
  | ok value => exact ⟨value, rfl, found⟩

theorem map_answers (f : α → β) (outcome : Except ε α) :
    (∃ result, outcome.map f = .ok result) ↔ ∃ result, outcome = .ok result := by
  cases outcome <;> simp [Except.map]

theorem mapM_ok_iff (read : α → Except ε β) (items : List α) (results : List β) :
    items.mapM read = .ok results ↔ List.Forall₂ (fun item result => read item = .ok result) items results := by
  induction items generalizing results with
  | nil => cases results <;> simp [pure, Except.pure]
  | cons item items ih =>
      rw [List.mapM_cons]
      constructor
      · intro answered
        obtain ⟨result, here, answered⟩ := bound_ok _ _ _ answered
        obtain ⟨others, onward, same⟩ := bound_ok _ _ _ answered
        cases same
        exact .cons here ((ih others).mp onward)
      · rintro (_ | ⟨here, onward⟩)
        rw [here, (ih _).mpr onward]
        rfl

theorem mapM_answers (read : α → Except ε β) (items : List α) :
    (∃ results, items.mapM read = .ok results) ↔ ∀ item ∈ items, ∃ result, read item = .ok result := by
  simp only [mapM_ok_iff]
  induction items with
  | nil => simp
  | cons item items ih =>
      rw [List.forall_mem_cons, ← ih]
      constructor
      · rintro ⟨_, _ | ⟨here, onward⟩⟩
        exact ⟨⟨_, here⟩, _, onward⟩
      · rintro ⟨⟨result, here⟩, results, onward⟩
        exact ⟨result :: results, .cons here onward⟩

theorem mapM_result (read : α → Except ε β) (items : List α) (results : List β) (answered : items.mapM read = .ok results) :
    ∀ item ∈ items, ∃ result ∈ results, read item = .ok result := by
  rw [mapM_ok_iff] at answered
  induction answered with
  | nil => simp
  | cons here _ ih => simp_all

theorem mapM_source (read : α → Except ε β) (items : List α) (results : List β) (answered : items.mapM read = .ok results) :
    ∀ result ∈ results, ∃ item ∈ items, read item = .ok result := by
  rw [mapM_ok_iff] at answered
  induction answered with
  | nil => simp
  | cons here _ ih => simp_all

theorem mapM_reordered (read : α → Except ε β) (items others : List α) (reordered : items.Perm others) (results : List β)
    (answered : items.mapM read = .ok results) : ∃ more, others.mapM read = .ok more ∧ results.Perm more := by
  obtain ⟨more, also, same⟩ := List.perm_comp_forall₂ reordered.symm ((mapM_ok_iff read items results).mp answered)
  exact ⟨more, (mapM_ok_iff read others more).mpr also, same.symm⟩

theorem mapM_same (first : α → Except ε γ) (second : β → Except ε γ) (one : List α) (other : List β)
    (same : List.Forall₂ (fun item also => second also = first item) one other) : other.mapM second = one.mapM first := by
  induction same with
  | nil => rfl
  | cons here _ ih => rw [List.mapM_cons, List.mapM_cons, here, ih]

theorem flattened_none_iff (read : α → Except ε (List β)) (items : List α) :
    (items.mapM read).map List.flatten = .ok [] ↔ ∀ item ∈ items, read item = .ok [] := by
  constructor
  · intro nothing item member
    cases answered : items.mapM read with
    | error fault => simp [answered, Except.map] at nothing
    | ok results =>
        rw [answered] at nothing
        have empty := List.flatten_eq_nil_iff.mp (Except.ok.inj nothing)
        obtain ⟨result, found, here⟩ := mapM_result read items results answered item member
        rw [here, empty result found]
  · intro nothing
    have results : items.mapM read = .ok (items.map fun _ => []) := by
      rw [mapM_ok_iff, List.forall₂_map_right_iff, List.forall₂_same]
      exact nothing
    rw [results]
    simp [Except.map]

end PipelineLint
