import PipelineLint.Proofs.LineCalls

set_option autoImplicit false

namespace PipelineLint.Repair

open Expression

def callsThrough (kind : CallKind) : (place : Place) → (index : Nat) → Lines → List CallPlace
  | _, _, [] => []
  | place, index, line :: rest =>
      callsIn kind (visit place index line).2.stretches line ++
        callsThrough kind (visit place index line).1 (index + 1) rest

theorem sites_from_cons (place : Place) (index : Nat) (line : List Char) (rest : Lines) :
    sitesFrom place index (line :: rest) =
      (visit place index line).2.append (sitesFrom (visit place index line).1 (index + 1) rest) := rfl

theorem form_stretches_line (form : Option (Form × Nat)) (index : Nat) (line : List Char) :
    ∀ stretch ∈ formStretches form index line, stretch.line = index := by
  intro stretch member
  cases form with
  | none => cases member
  | some form =>
      obtain ⟨form, start⟩ := form
      cases form with
      | bare => rw [List.mem_singleton.mp member]
      | scalar =>
          obtain ⟨opens, stop, scalar, -⟩ := scalar_stretch_inside index start line
          rw [List.mem_singleton.mp member, scalar]
      | interpolated =>
          obtain ⟨span, -, rfl⟩ := List.mem_map.mp member
          rfl

theorem calls_through_from (kind : CallKind) (place : Place) (done lines : Lines) :
    (sitesFrom place done.length lines).calls kind (done ++ lines) = callsThrough kind place done.length lines := by
  induction lines generalizing place done with
  | nil => rfl
  | cons line rest ih =>
      have later := ih (visit place done.length line).1 (done ++ [line])
      rw [List.append_assoc, List.singleton_append, List.length_append, List.length_singleton] at later
      obtain ⟨form, seen⟩ := visit_form place done.length line
      rw [sites_from_cons]
      simp only [Sites.calls, Sites.append, List.flatMap_append, callsThrough] at later ⊢
      rw [later]
      congr 1
      unfold callsIn
      rw [List.flatMap_def, List.flatMap_def]
      congr 1
      refine List.map_congr_left fun stretch member => ?_
      rw [seen] at member
      rw [form_stretches_line form done.length line stretch member]
      simp

theorem calls_through (kind : CallKind) (lines : Lines) : (sites lines).calls kind lines = callsThrough kind {} 0 lines :=
  calls_through_from kind {} [] lines

theorem through_renamed (place : Place) (index : Nat) (lines : Lines) (kind : CallKind) (front back : List CallPlace)
    (call : CallPlace) (other : String) (callable : IsCallable kind other.toList)
    (found : callsThrough kind place index lines = front ++ call :: back) :
    let renamed := lines.modify (call.line - index) (replaceRange call.start call.stop other)
    index ≤ call.line ∧ (sitesFrom place index renamed).keys = (sitesFrom place index lines).keys ∧
      Swapped kind (fun kind => callsThrough kind place index lines)
        (fun kind => callsThrough kind place index renamed) front call other back := by
  induction lines generalizing place index front with
  | nil => simp [callsThrough] at found
  | cons line rest ih =>
      rcases append_split _ _ front back call found with ⟨others, rfl, later⟩ | ⟨others, here, rfl⟩
      · obtain ⟨beyond, keys, ⟨last, same, names⟩, kinds⟩ := ih (visit place index line).1 (index + 1) others later
        have next : call.line - index = call.line - (index + 1) + 1 := by omega
        rw [next, List.modify_succ_cons]
        refine ⟨by omega, ?_, ⟨last, ?_, names⟩, ?_⟩
        · rw [sites_from_cons, sites_from_cons]
          simp only [Sites.append, keys]
        · simp only [callsThrough, same, List.append_assoc]
        · intro another differs
          simp only [callsThrough, List.map_append]
          rw [kinds another differs]
      · obtain ⟨rfl, next, keys, ⟨last, same, names⟩, kinds⟩ :=
          visit_renamed place index line kind front others call other callable here
        rw [Nat.sub_self, List.modify_zero_cons]
        refine ⟨Nat.le_refl _, ?_,
          ⟨last ++ callsThrough kind (visit place call.line line).1 (call.line + 1) rest, ?_, ?_⟩, ?_⟩
        · rw [sites_from_cons, sites_from_cons, next]
          simp only [Sites.append, keys]
        · simp only [callsThrough, next]
          rw [same]
          simp
        · rw [List.map_append, List.map_append, names]
        · intro another differs
          simp only [callsThrough, List.map_append, next]
          rw [kinds another differs]

theorem call_renamed (lines : Lines) (kind : CallKind) (front back : List CallPlace) (call : CallPlace) (other : String)
    (callable : IsCallable kind other.toList) (found : (sites lines).calls kind lines = front ++ call :: back) :
    (sites (renameCall call other lines)).keys = (sites lines).keys ∧
      Swapped kind (fun kind => (sites lines).calls kind lines)
        (fun kind => (sites (renameCall call other lines)).calls kind (renameCall call other lines))
        front call other back := by
  rw [calls_through] at found
  obtain ⟨-, keys, swapped⟩ := through_renamed {} 0 lines kind front back call other callable found
  refine ⟨keys, ?_⟩
  simp only [calls_through]
  exact swapped

def repairedName (kind : CallKind) (name : String) : String :=
  (Catalog.callReplacement? kind name).getD name

def callNames (kind : CallKind) (lines : Lines) : List String :=
  ((sites lines).calls kind lines).map CallPlace.name

theorem replacement_callable (kind : CallKind) (name target : String)
    (found : Catalog.callReplacement? kind name = some target) : IsCallable kind target.toList := by
  have listed := Catalog.call_replacement_listed name target kind found
  refine ⟨(Catalog.call_tables kind).spelled target listed, ?_⟩
  rintro rfl
  rw [String.ofList_toList]
  exact (Catalog.call_tables .function).no_keyword rfl target listed

def replacedCalls (kind : CallKind) (calls : List CallPlace) : List (CallPlace × String) :=
  calls.filterMap fun call => (Catalog.callReplacement? kind call.name).map (call, ·)

def renameCalls (found : List (CallPlace × String)) (lines : Lines) : Lines :=
  found.foldr (fun (call, name) lines => renameCall call name lines) lines

theorem calls_renamed_behind (kind : CallKind) (lines : Lines) (front back : List CallPlace)
    (found : (sites lines).calls kind lines = front ++ back) :
    let renamed := renameCalls (replacedCalls kind back) lines
    (sites renamed).keys = (sites lines).keys ∧
      (∃ later, (sites renamed).calls kind renamed = front ++ later ∧
        later.map CallPlace.name = (back.map CallPlace.name).map (repairedName kind)) ∧
      ∀ another, another ≠ kind → callNames another renamed = callNames another lines := by
  induction back generalizing front with
  | nil => exact ⟨rfl, ⟨[], found, rfl⟩, fun _ _ => rfl⟩
  | cons call back ih =>
      obtain ⟨keys, ⟨later, same, names⟩, kinds⟩ := ih (front ++ [call]) (by rw [found]; simp)
      cases replacement : Catalog.callReplacement? kind call.name with
      | none =>
          have skipped : replacedCalls kind (call :: back) = replacedCalls kind back := by
            simp [replacedCalls, replacement]
          rw [skipped]
          refine ⟨keys, ⟨call :: later, by rw [same]; simp, ?_⟩, kinds⟩
          rw [List.map_cons, List.map_cons, List.map_cons, names, repairedName, replacement]
          rfl
      | some target =>
          have taken : replacedCalls kind (call :: back) = (call, target) :: replacedCalls kind back := by
            simp [replacedCalls, replacement]
          rw [taken]
          rw [List.append_assoc] at same
          obtain ⟨still, ⟨last, swapped, kept⟩, others⟩ := call_renamed _ kind front later call target
            (replacement_callable kind call.name target replacement) same
          refine ⟨still.trans keys, ⟨_, swapped, ?_⟩, fun another differs => ?_⟩
          · rw [List.map_cons, List.map_cons, List.map_cons, kept, names, repairedName, replacement]
            rfl
          · exact (others another differs).trans (kinds another differs)

-- Renaming the calls of a kind keeps the keys, the calls of the other kind, and the places of all calls.
theorem fix_calls_effect (kind : CallKind) (lines : Lines) :
    (sites (fixCalls kind lines).1).keys = (sites lines).keys ∧
      callNames kind (fixCalls kind lines).1 = (callNames kind lines).map (repairedName kind) ∧
      ∀ another, another ≠ kind → callNames another (fixCalls kind lines).1 = callNames another lines := by
  obtain ⟨keys, ⟨later, same, names⟩, kinds⟩ := calls_renamed_behind kind lines [] _ rfl
  refine ⟨keys, ?_, kinds⟩
  exact (congrArg (List.map CallPlace.name) same).trans names

def CallsSettled (kind : CallKind) (lines : Lines) : Prop :=
  ∀ name ∈ callNames kind lines, Catalog.callReplacement? kind name = none

theorem fix_calls_settled (kind : CallKind) (lines : Lines) : CallsSettled kind (fixCalls kind lines).1 := by
  intro name member
  rw [(fix_calls_effect kind lines).2.1] at member
  obtain ⟨old, -, rfl⟩ := List.mem_map.mp member
  cases replacement : Catalog.callReplacement? kind old with
  | none =>
      rw [repairedName, replacement]
      exact replacement
  | some target =>
      rw [repairedName, replacement]
      exact Catalog.call_replacement_of_listed target kind (Catalog.call_replacement_listed old target kind replacement)

theorem fix_calls_fixes (kind : CallKind) (lines : Lines) : (fixCalls kind lines).2 = [] ↔ CallsSettled kind lines := by
  have found : (fixCalls kind lines).2 = [] ↔ replacedCalls kind ((sites lines).calls kind lines) = [] :=
    List.map_eq_nil_iff
  rw [found, replacedCalls, List.filterMap_eq_nil_iff]
  simp only [Option.map_eq_none_iff, CallsSettled, callNames, List.forall_mem_map]

theorem fix_calls_idle (kind : CallKind) (lines : Lines) (settled : CallsSettled kind lines) :
    fixCalls kind lines = (lines, []) := by
  have fixes := (fix_calls_fixes kind lines).mpr settled
  have none_found : misnamedCalls kind lines = [] := List.map_eq_nil_iff.mp fixes
  unfold fixCalls
  simp only
  rw [none_found]
  rfl

end PipelineLint.Repair
