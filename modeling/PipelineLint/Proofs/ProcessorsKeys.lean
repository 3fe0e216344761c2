import PipelineLint.Proofs.Convergence

set_option autoImplicit false

namespace PipelineLint.Repair

def IsProcessors (site : KeySite) : Prop :=
  site.above = [.key "pipeline"] ∧ site.key = Catalog.processorsKey

instance (site : KeySite) : Decidable (IsProcessors site) :=
  inferInstanceAs (Decidable (_ ∧ _))

def processorsKeys (lines : Lines) : List KeySite :=
  (sites lines).keys.filter (IsProcessors ·)

theorem processors_among (keys : List KeySite) :
    keys.filter (IsProcessors ·) = (Sites.mk keys []).pipelineKeys.filter (·.key = Catalog.processorsKey) := by
  unfold Sites.pipelineKeys
  rw [List.filter_filter]
  refine List.filter_congr fun site _ => ?_
  simp [IsProcessors, and_comm]

theorem fix_outline_kind (lines : Lines) : ∀ fix ∈ (fixOutline lines).2, fix.kind = .outline := by
  unfold fixOutline
  simp only
  split
  · nofun
  · split
    · nofun
    · exact List.forall_mem_singleton.mpr rfl

theorem fix_outline_once (lines : Lines) : (fixOutline lines).2.length ≤ 1 := by
  unfold fixOutline
  simp only
  split
  · exact Nat.zero_le 1
  · split
    · exact Nat.zero_le 1
    · exact Nat.le_refl 1

theorem fix_outline_named (lines : Lines) (named : processorsKeys lines ≠ []) : fixOutline lines = (lines, []) := by
  obtain ⟨site, member⟩ := List.exists_mem_of_ne_nil _ named
  obtain ⟨inside, processors⟩ := List.mem_filter.mp member
  exact fix_outline_idle lines (.inl ⟨site, inside, of_decide_eq_true processors⟩)

theorem fix_outline_processors (lines : Lines) (fixes : (fixOutline lines).2 ≠ []) :
    (processorsKeys (fixOutline lines).1).length = 1 := by
  rcases fix_outline_cases lines with ⟨idle, -⟩ | ⟨site, member, above, -, renamed, open_⟩
  · rw [idle] at fixes
    exact absurd rfl fixes
  · have none_named : ∀ other ∈ (sites lines).keys, ¬ IsProcessors other := fun other inside processors =>
      open_ (.inl ⟨other, inside, processors⟩)
    obtain ⟨front, back, split⟩ := List.append_of_mem member
    obtain ⟨-, later, same, kept⟩ :=
      key_renamed_through {} 0 lines front back site Catalog.processorsKey (by decide) split
    rw [split, List.forall_mem_append, List.forall_mem_cons] at none_named
    obtain ⟨before, -, behind⟩ := none_named
    have first : front.filter (IsProcessors ·) = [] := List.filter_eq_nil_iff.mpr (by simpa using before)
    have last : later.filter (IsProcessors ·) = [] := by
      rw [processors_among, kept above, ← processors_among]
      exact List.filter_eq_nil_iff.mpr (by simpa using behind)
    have this : IsProcessors { site with key := Catalog.processorsKey } := ⟨above, rfl⟩
    have keys : (sites (fixOutline lines).1).keys = front ++ { site with key := Catalog.processorsKey } :: later := by
      rw [renamed]
      exact same
    rw [processorsKeys, keys, List.filter_append, first, List.filter_cons_of_pos (by simpa using this), last]
    rfl

theorem processors_advanced (site : KeySite) : IsProcessors site.advanced ↔ IsProcessors site := by
  constructor
  · rintro ⟨above, named⟩
    obtain ⟨below, same⟩ := pipeline_advanced site above
    exact ⟨below, same ▸ named⟩
  · rintro ⟨above, named⟩
    refine ⟨?_, ?_⟩
    · show advance site.above = _
      rw [above]
      simp only [advance, top_level_kept]
    · show advancedName site.key site.above = _
      rw [above, outline_key_kept, named]

theorem pass_processors (lines : Lines) :
    (processorsKeys (pass lines).1).length = (processorsKeys (fixOutline lines).1).length := by
  unfold processorsKeys
  rw [pass_keys, List.filter_map, List.length_map]
  simp only [Function.comp_def, processors_advanced]

theorem passed_processors (count : Nat) (lines : Lines) (settled : OutlineSettled (sites lines).keys) :
    (processorsKeys (passed count lines)).length = (processorsKeys lines).length := by
  induction count generalizing lines with
  | zero => rfl
  | succ count ih =>
      rw [passed, ih _ (pass_outline lines), pass_processors, fix_outline_idle lines settled]

theorem pass_outline_fixes (lines : Lines) : (pass lines).2.filter (·.kind = .outline) = (fixOutline lines).2 := by
  have components (lines : Lines) : (fixComponents lines).2.filter (·.kind = .outline) = [] := by
    refine List.filter_eq_nil_iff.mpr fun fix member => ?_
    obtain ⟨_, -, rfl⟩ := List.mem_map.mp member
    simp [Fix.sure]
  have calls (kind : CallKind) (lines : Lines) : (fixCalls kind lines).2.filter (·.kind = .outline) = [] := by
    refine List.filter_eq_nil_iff.mpr fun fix member => ?_
    obtain ⟨_, -, rfl⟩ := List.mem_map.mp member
    simp [Fix.sure]
  have outline := List.filter_eq_self.mpr fun fix member => decide_eq_true (fix_outline_kind lines fix member)
  rw [pass_eq lines]
  simp only [List.filter_append, components, calls, outline, List.append_nil]

theorem passes_outline_none (limit : Nat) (lines : Lines) (settled : OutlineSettled (sites lines).keys) :
    (passes limit lines).2.1.filter (·.kind = .outline) = [] := by
  induction limit generalizing lines with
  | zero => rfl
  | succ limit ih =>
      by_cases idle : Settled lines
      · rw [passes_settled limit lines idle]
        rfl
      · rw [passes_next limit lines idle]
        simp only [List.filter_append, pass_outline_fixes, fix_outline_idle lines settled, ih _ (pass_outline lines),
          List.append_nil]

theorem passes_outline_fixes (limit : Nat) (lines : Lines) :
    (passes (limit + 1) lines).2.1.filter (·.kind = .outline) = (fixOutline lines).2 := by
  by_cases idle : Settled lines
  · rw [passes_settled limit lines idle, fix_outline_idle lines idle.outline]
    rfl
  · rw [passes_next limit lines idle]
    simp only [List.filter_append, pass_outline_fixes, passes_outline_none limit _ (pass_outline lines), List.append_nil]

theorem repaired_processors (limit : Nat) (lines : Lines) :
    (processorsKeys (passed (limit + 1) lines)).length = (processorsKeys (fixOutline lines).1).length := by
  rw [passed, passed_processors limit _ (pass_outline lines), pass_processors]

end PipelineLint.Repair

namespace PipelineLint

open Repair

-- A repair names the list of processors at most once, and not where that name is there already; if it does, then exactly one key
-- right below `pipeline` has the name in the end, and else as many as before.
theorem processors_named_once (text : String) (limit : Int) (some_pass : 1 ≤ limit) :
    ∃ repaired, repair text limit = .ok repaired ∧
      (repaired.fixes.filter (·.kind = .outline)).length ≤ 1 ∧
      (processorsKeys (Text.splitFeeds text.toList) ≠ [] → ∀ fix ∈ repaired.fixes, fix.kind ≠ .outline) ∧
      (processorsKeys (Text.splitFeeds repaired.text.toList)).length =
        if ∃ fix ∈ repaired.fixes, fix.kind = .outline then 1 else (processorsKeys (Text.splitFeeds text.toList)).length := by
  obtain ⟨count, rfl⟩ : ∃ count : Nat, limit = (count + 1 : Nat) := ⟨(limit - 1).toNat, by omega⟩
  have fixes : (repairWithin (count + 1) text).fixes.filter (·.kind = .outline) =
      (fixOutline (Text.splitFeeds text.toList)).2 := by
    rw [repair_within_eq, passes_outline_fixes]
  have made (fix : Fix) (member : fix ∈ (repairWithin (count + 1) text).fixes) (kind : fix.kind = .outline) :
      fix ∈ (fixOutline (Text.splitFeeds text.toList)).2 :=
    fixes ▸ List.mem_filter.mpr ⟨member, decide_eq_true kind⟩
  refine ⟨repairWithin (count + 1) text, repair_ok text (count + 1) (Nat.le_add_left 1 count), ?_, fun named fix member kind => ?_, ?_⟩
  · rw [fixes]
    exact fix_outline_once _
  · have none_made := made fix member kind
    rw [fix_outline_named _ named] at none_made
    cases none_made
  · rw [repaired_lines, repaired_processors]
    split
    · rename_i some_made
      obtain ⟨fix, member, kind⟩ := some_made
      exact fix_outline_processors _ (List.ne_nil_of_mem (made fix member kind))
    · rename_i none_made
      have settled : OutlineSettled (sites (Text.splitFeeds text.toList)).keys := by
        refine (fix_outline_fixes _).mp (fixes ▸ List.filter_eq_nil_iff.mpr fun fix member kind => ?_)
        exact none_made ⟨fix, member, of_decide_eq_true kind⟩
      rw [fix_outline_idle _ settled]

def synonymsSample : String :=
  "pipeline:\n  steps:\n    - TRY: []\n  stages: []\n---\npipeline:\n  actions: []\n"

def namedSample : String :=
  "pipeline:\n  steps: []\n  processors:\n    - TRY: []\n"

theorem processors_named_once_synonyms : (1 : Int) ≤ defaultLimit ∧ processorsKeys (Text.splitFeeds namedSample.toList) ≠ [] ∧
    (∃ repaired, repair synonymsSample defaultLimit = .ok repaired ∧
      repaired.fixes = [.sure .outline "steps" "processors" 1, .sure .component "TRY" "try" 2] ∧
      (processorsKeys (Text.splitFeeds repaired.text.toList)).length = 1) ∧
    ∃ repaired, repair namedSample defaultLimit = .ok repaired ∧ ∀ fix ∈ repaired.fixes, fix.kind ≠ .outline := by
  have named : processorsKeys (Text.splitFeeds namedSample.toList) ≠ [] := by decide +kernel
  obtain ⟨repaired, done, -, -, keys⟩ := processors_named_once synonymsSample defaultLimit (by decide)
  obtain ⟨other, also, -, kept, -⟩ := processors_named_once namedSample defaultLimit (by decide)
  have fixes : repaired.fixes = [.sure .outline "steps" "processors" 1, .sure .component "TRY" "try" 2] := by
    rw [repair_default] at done
    obtain rfl := Except.ok.inj done
    decide +kernel
  rw [fixes, if_pos ⟨_, List.mem_cons_self, rfl⟩] at keys
  exact ⟨by decide, named, ⟨repaired, done, fixes, keys⟩, other, also, kept named⟩

end PipelineLint
