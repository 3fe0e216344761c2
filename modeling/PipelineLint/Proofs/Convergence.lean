import PipelineLint.Proofs.Feeds
import PipelineLint.Proofs.Rounds
import PipelineLint.Repair
/-!
Repairs come to an end. Main statements: on every document the passes stop because one of them
changes nothing, and a repair with the limit that holds by default is final if and only if no key has
to wait for more passes than that.
-/

set_option autoImplicit false

namespace PipelineLint.Repair

structure Settled (lines : Lines) : Prop where
  outline : OutlineSettled (sites lines).keys
  keys : KeysSettled lines
  methods : CallsSettled .method lines
  functions : CallsSettled .function lines

theorem pass_eq (lines : Lines) :
    let outlined := fixOutline lines
    let renamed := fixComponents outlined.1
    let methods := fixCalls .method renamed.1
    let functions := fixCalls .function methods.1
    pass lines = (functions.1, outlined.2 ++ renamed.2 ++ methods.2 ++ functions.2) := by
  simp [pass, rules]

theorem pass_idle (lines : Lines) (settled : Settled lines) : pass lines = (lines, []) := by
  have whole := pass_eq lines
  simp only at whole
  rw [fix_outline_idle lines settled.outline, fix_components_idle lines settled.keys,
    fix_calls_idle .method lines settled.methods, fix_calls_idle .function lines settled.functions] at whole
  exact whole

theorem pass_fixes (lines : Lines) : (pass lines).2 = [] ↔ Settled lines := by
  constructor
  · intro fixes
    rw [pass_eq lines] at fixes
    simp only [List.append_eq_nil_iff] at fixes
    obtain ⟨⟨⟨outline, components⟩, methods⟩, functions⟩ := fixes
    have outlined := (fix_outline_fixes lines).mp outline
    rw [fix_outline_idle lines outlined] at components methods functions
    have keys := (fix_components_fixes lines).mp components
    rw [fix_components_idle lines keys] at methods functions
    have method_calls := (fix_calls_fixes .method lines).mp methods
    rw [fix_calls_idle .method lines method_calls] at functions
    exact ⟨outlined, keys, method_calls, (fix_calls_fixes .function lines).mp functions⟩
  · intro settled
    rw [pass_idle lines settled]

theorem pass_keys (lines : Lines) :
    (sites (pass lines).1).keys = (sites (fixOutline lines).1).keys.map KeySite.advanced := by
  rw [pass_eq lines]
  simp only
  rw [(fix_calls_effect .function _).1, (fix_calls_effect .method _).1, fix_components_effect]

theorem pass_outline (lines : Lines) : OutlineSettled (sites (pass lines).1).keys := by
  rw [pass_keys]
  exact outline_settled_advanced _ (fix_outline_settled lines)

theorem pass_calls (lines : Lines) : CallsSettled .method (pass lines).1 ∧ CallsSettled .function (pass lines).1 := by
  rw [pass_eq lines]
  simp only
  refine ⟨?_, fix_calls_settled .function _⟩
  intro name member
  rw [(fix_calls_effect .function _).2.2 .method (by decide)] at member
  exact fix_calls_settled .method _ name member

theorem pass_renamed (lines : Lines) : Renamed lines (pass lines).1 := by
  rw [pass_eq lines]
  simp only
  have components := renamed_trans _ _ _ (fix_outline_renamed lines) (fix_components_renamed _)
  have methods := renamed_trans _ _ _ components (fix_calls_renamed .method _)
  exact renamed_trans _ _ _ methods (fix_calls_renamed .function _)

theorem pass_lines (lines : Lines) (are : AreLines lines) : AreLines (pass lines).1 :=
  renamed_lines lines _ (pass_renamed lines) are

-- Every rename of the document is due in one of the next passes.
def DueWithin (limit : Nat) (lines : Lines) : Prop :=
  ∀ site ∈ (sites (fixOutline lines).1).keys, ∀ pass name, renaming? site.key site.above = some (pass, name) → pass ≤ limit

theorem renaming_site_advanced (site : KeySite) :
    renaming? site.advanced.key site.advanced.above = nearer (renaming? site.key site.above) :=
  renaming_advanced site.key site.above

theorem due_within_pass (limit : Nat) (lines : Lines) : DueWithin (limit + 1) lines ↔ DueWithin limit (pass lines).1 := by
  unfold DueWithin
  rw [fix_outline_idle (pass lines).1 (pass_outline lines), pass_keys, List.forall_mem_map]
  refine forall_congr' fun site => forall_congr' fun _ => ?_
  rw [renaming_site_advanced]
  cases due : renaming? site.key site.above with
  | none => simp [nearer]
  | some pair =>
      obtain ⟨pass, name⟩ := pair
      have late := renaming_positive site.key name site.above pass due
      by_cases first : pass ≤ 1
      · simp only [nearer, Option.bind_some, if_pos first, Option.some.injEq, Prod.mk.injEq, reduceCtorEq, false_implies,
          implies_true, iff_true]
        rintro other _ ⟨rfl, -⟩
        omega
      · simp only [nearer, Option.bind_some, if_neg first, Option.some.injEq, Prod.mk.injEq]
        constructor
        · rintro within other _ ⟨rfl, rfl⟩
          have bound := within pass name ⟨rfl, rfl⟩
          omega
        · rintro within other _ ⟨rfl, rfl⟩
          have bound := within (pass - 1) name ⟨rfl, rfl⟩
          omega

theorem settled_due (lines : Lines) (settled : Settled lines) : DueWithin 0 lines := by
  have same : (sites lines).keys.map KeySite.advanced = (sites lines).keys := by
    have keys := pass_keys lines
    rw [pass_idle lines settled, fix_outline_idle lines settled.outline] at keys
    exact keys.symm
  have never (pass : Nat) : ∀ site ∈ (sites lines).keys, ∀ name, renaming? site.key site.above ≠ some (pass, name) := by
    induction pass with
    | zero =>
        intro site _ name due
        exact absurd (renaming_positive site.key name site.above 0 due) (by omega)
    | succ pass ih =>
        intro site member name due
        by_cases first : pass = 0
        · subst first
          have replaced := (renaming_due site.key name site.above).mp due
          rw [settled.keys site member] at replaced
          cases replaced
        · have advanced : site.advanced ∈ (sites lines).keys := same ▸ List.mem_map_of_mem member
          refine ih site.advanced advanced name ?_
          rw [renaming_site_advanced, due]
          simp [nearer, first]
  intro site member pass name due
  rw [fix_outline_idle lines settled.outline] at member
  exact absurd due (never pass site member name)

theorem due_settled (lines : Lines) (within : DueWithin 0 (pass lines).1) : Settled (pass lines).1 := by
  obtain ⟨methods, functions⟩ := pass_calls lines
  refine ⟨pass_outline lines, fun site member => ?_, methods, functions⟩
  unfold DueWithin at within
  rw [fix_outline_idle (pass lines).1 (pass_outline lines)] at within
  simp only at within
  cases replaced : keyReplacement? site.key site.above with
  | none => rfl
  | some name =>
      have due := (renaming_due site.key name site.above).mpr replaced
      exact absurd (within site member 1 name due) (by omega)

def passed : (count : Nat) → Lines → Lines
  | 0, lines => lines
  | count + 1, lines => passed count (pass lines).1

theorem passed_settled (count : Nat) (lines : Lines) (settled : Settled lines) : passed count lines = lines := by
  induction count with
  | zero => rfl
  | succ count ih =>
      rw [passed, pass_idle lines settled]
      exact ih

theorem settled_passed (count : Nat) (lines : Lines) : Settled (passed (count + 1) lines) ↔ DueWithin (count + 1) lines := by
  induction count generalizing lines with
  | zero =>
      rw [due_within_pass]
      exact ⟨settled_due _, due_settled lines⟩
  | succ count ih =>
      rw [due_within_pass]
      exact ih (pass lines).1

theorem passes_settled (limit : Nat) (lines : Lines) (settled : Settled lines) :
    passes (limit + 1) lines = (lines, [], 1) := by
  rw [passes, pass_idle lines settled]

theorem passes_next (limit : Nat) (lines : Lines) (unsettled : ¬ Settled lines) :
    passes (limit + 1) lines =
      ((passes limit (pass lines).1).1, (pass lines).2 ++ (passes limit (pass lines).1).2.1,
        (passes limit (pass lines).1).2.2 + 1) := by
  have changes : (pass lines).2 ≠ [] := fun none_made => unsettled ((pass_fixes lines).mp none_made)
  rw [passes]
  generalize pass lines = result at changes
  obtain ⟨next, fixes⟩ := result
  cases fixes with
  | nil => exact absurd rfl changes
  | cons fix fixes => rfl

theorem passes_lines (limit : Nat) (lines : Lines) : (passes limit lines).1 = passed limit lines := by
  induction limit generalizing lines with
  | zero => rfl
  | succ limit ih =>
      by_cases settled : Settled lines
      · rw [passes_settled limit lines settled, passed_settled (limit + 1) lines settled]
      · rw [passes_next limit lines settled, ih]
        rfl

theorem passed_renamed (count : Nat) (lines : Lines) : Renamed lines (passed count lines) := by
  induction count generalizing lines with
  | zero => exact .same
  | succ count ih => exact renamed_trans _ _ _ (pass_renamed lines) (ih (pass lines).1)

theorem passed_lines (count : Nat) (lines : Lines) (are : AreLines lines) : AreLines (passed count lines) :=
  renamed_lines lines _ (passed_renamed count lines) are

theorem passes_stable (count : Nat) (lines : Lines) (settled : Settled (passed count lines)) :
    (passes (count + 1) lines).2.2 ≤ count + 1 ∧
      ∀ limit, (passes (count + 1) lines).2.2 ≤ limit → passes limit lines = passes (count + 1) lines := by
  induction count generalizing lines with
  | zero =>
      rw [passes_settled 0 lines settled]
      refine ⟨Nat.le_refl 1, fun limit enough => ?_⟩
      obtain ⟨limit, rfl⟩ := Nat.exists_eq_add_of_le' enough
      exact passes_settled limit lines settled
  | succ count ih =>
      by_cases already : Settled lines
      · rw [passes_settled (count + 1) lines already]
        refine ⟨by simp, fun limit enough => ?_⟩
        obtain ⟨limit, rfl⟩ := Nat.exists_eq_add_of_le' enough
        exact passes_settled limit lines already
      · obtain ⟨bound, stable⟩ := ih (pass lines).1 settled
        rw [passes_next (count + 1) lines already]
        refine ⟨Nat.succ_le_succ bound, fun limit enough => ?_⟩
        obtain ⟨limit, rfl⟩ := Nat.exists_eq_add_of_le' (Nat.le_trans (Nat.le_add_left 1 _) enough)
        rw [passes_next limit lines already, stable limit (Nat.le_of_succ_le_succ enough)]

theorem sites_from_keys (place : Place) (index : Nat) (line : List Char) (rest : Lines) :
    (sitesFrom place index (line :: rest)).keys =
      (visit place index line).2.keys ++ (sitesFrom (visit place index line).1 (index + 1) rest).keys := rfl

theorem above_run (passes : Nat × Level → Bool) (levels : List (Nat × Level)) :
    (levels.dropWhile passes).length ≤ levels.length :=
  (List.dropWhile_sublist passes).length_le

theorem shape_levels (shape : Shape) (place : Place) (index : Nat) :
    (shape.place place).levels.length ≤ place.levels.length + 2 ∧
      ∀ site ∈ shape.keys index place.levels, site.above.length ≤ place.levels.length + 1 := by
  have below (dash : Option Nat) : (levelsBelow dash place.levels).length ≤ place.levels.length + 1 := by
    cases dash with
    | none => exact Nat.le_succ _
    | some indent => exact Nat.succ_le_succ (above_run _ _)
  cases shape with
  | stay => exact ⟨Nat.le_add_right _ 2, by simp [Shape.keys]⟩
  | reset => exact ⟨Nat.zero_le _, by simp [Shape.keys]⟩
  | plain dash => exact ⟨Nat.le_succ_of_le (below dash), by simp [Shape.keys]⟩
  | entry dash column key opens =>
      have above : (aboveEntry column (levelsBelow dash place.levels)).length ≤ place.levels.length + 1 :=
        Nat.le_trans (above_run _ _) (below dash)
      refine ⟨Nat.succ_le_succ above, fun site member => ?_⟩
      rw [List.mem_singleton.mp member]
      simp only [entrySite, List.length_map]
      exact above

theorem sites_depth (place : Place) (index : Nat) (lines : Lines) :
    ∀ site ∈ (sitesFrom place index lines).keys, site.above.length + 1 ≤ place.levels.length + 2 * lines.length := by
  induction lines generalizing place index with
  | nil => simp [sitesFrom]
  | cons line rest ih =>
      intro site member
      obtain ⟨next, keys⟩ := visit_shape place index line
      obtain ⟨deeper, here⟩ := shape_levels (shapeOf (place.block.map OpenBlock.column) line) place index
      rw [sites_from_keys, List.mem_append] at member
      rw [List.length_cons]
      rcases member with first | later
      · rw [keys] at first
        have bound := here site first
        omega
      · have bound := ih (visit place index line).1 (index + 1) site later
        rw [next] at bound
        omega

theorem due_within_lines (lines : Lines) : DueWithin lines.length lines := by
  intro site member pass name due
  have depth := sites_depth {} 0 (fixOutline lines).1 site member
  have bound := renaming_bound site.key name site.above pass due
  rw [renamed_length _ _ (fix_outline_renamed lines)] at depth
  simp only [List.length_nil] at depth
  omega

end PipelineLint.Repair

namespace PipelineLint

open Repair

theorem repair_within_eq (limit : Nat) (text : String) :
    let result := passes limit (Text.splitFeeds text.toList)
    repairWithin limit text = ⟨String.ofList (Text.joinFeeds result.1), result.2.1, suggestions result.1, result.2.2⟩ := rfl

theorem repair_ok (text : String) (limit : Nat) (some_pass : 1 ≤ limit) :
    repair text limit = .ok (repairWithin limit text) := by
  unfold repair
  rw [if_neg (by omega), Int.toNat_natCast]

theorem repaired_lines (text : String) (limit : Nat) :
    Text.splitFeeds (repairWithin limit text).text.toList = passed limit (Text.splitFeeds text.toList) := by
  rw [repair_within_eq]
  simp only
  rw [String.toList_ofList, passes_lines]
  exact split_join_feeds _ (passed_lines limit _ (split_feeds_lines text.toList))

theorem repair_settled (text : String) (limit : Nat) (some_pass : 1 ≤ limit)
    (settled : Settled (Text.splitFeeds text.toList)) :
    repairWithin limit text = ⟨text, [], suggestions (Text.splitFeeds text.toList), 1⟩ := by
  obtain ⟨limit, rfl⟩ := Nat.exists_eq_add_of_le' some_pass
  unfold repairWithin
  rw [passes_settled limit _ settled]
  simp only
  rw [Text.joinFeeds_splitFeeds, String.ofList_toList]

theorem passes_positive (limit : Nat) (lines : Lines) : 1 ≤ (passes (limit + 1) lines).2.2 := by
  by_cases settled : Settled lines
  · simp only [passes_settled limit lines settled, Nat.le_refl]
  · simp only [passes_next limit lines settled, Nat.le_add_left]

theorem repair_passes (text : String) (limit : Nat) :
    (repairWithin limit text).passes = (passes limit (Text.splitFeeds text.toList)).2.2 := by
  rw [repair_within_eq]

theorem repair_same (text : String) (limit other : Nat)
    (same : passes limit (Text.splitFeeds text.toList) = passes other (Text.splitFeeds text.toList)) :
    repairWithin limit text = repairWithin other text := by
  rw [repair_within_eq, repair_within_eq, same]

theorem repair_again (text : String) (count limit : Nat) (some_pass : 1 ≤ limit)
    (settled : Settled (passed count (Text.splitFeeds text.toList))) :
    repair (repairWithin count text).text limit =
      .ok ⟨(repairWithin count text).text, [], (repairWithin count text).suggestions, 1⟩ := by
  have lines := repaired_lines text count
  have kept : (repairWithin count text).suggestions = suggestions (passed count (Text.splitFeeds text.toList)) := by
    rw [← passes_lines, repair_within_eq]
  rw [← lines] at settled
  rw [repair_ok _ limit some_pass, repair_settled _ limit some_pass settled, lines, kept]

-- Every repair comes to an end, after one pass more than the document has lines at the latest: with any higher limit the
-- result is the same, and a repair of the result changes nothing.
theorem repair_converges (text : String) :
    ∃ settled : Repaired, settled.passes ≤ (Text.splitFeeds text.toList).length + 1 ∧
      (∀ limit : Nat, settled.passes ≤ limit → repair text limit = .ok settled) ∧
      ∀ limit : Nat, 1 ≤ limit → repair settled.text limit = .ok ⟨settled.text, [], settled.suggestions, 1⟩ := by
  have are := split_feeds_lines text.toList
  have due := due_within_lines (Text.splitFeeds text.toList)
  obtain ⟨count, lines⟩ := Nat.exists_eq_add_of_le' (List.length_pos_iff.mpr are.some_line)
  rw [lines] at due
  have settled := (settled_passed count _).mpr due
  have later : Settled (passed (count + 2) (Text.splitFeeds text.toList)) :=
    (settled_passed _ _).mpr fun site member pass name found => Nat.le_succ_of_le (due site member pass name found)
  obtain ⟨bound, stable⟩ := passes_stable (count + 1) _ settled
  have positive := passes_positive (count + 1) (Text.splitFeeds text.toList)
  rw [← repair_passes] at bound stable positive
  rw [lines]
  refine ⟨repairWithin (count + 2) text, bound, fun limit enough => ?_, fun limit some_pass => ?_⟩
  · rw [repair_ok text limit (Nat.le_trans positive enough), repair_same text limit _ (stable limit enough)]
  · exact repair_again text (count + 2) limit some_pass later

theorem repair_default (text : String) : repair text defaultLimit = .ok (repairWithin 10 text) :=
  repair_ok text 10 (by decide)

theorem repair_fixes (text : String) (limit : Nat) (unsettled : ¬ Settled (Text.splitFeeds text.toList)) :
    (repairWithin (limit + 1) text).fixes ≠ [] := by
  rw [repair_within_eq]
  simp only
  rw [passes_next limit _ unsettled]
  intro made
  exact unsettled ((pass_fixes _).mp (List.append_eq_nil_iff.mp made).1)

theorem second_repair_idle (text : String) :
    ((repairWithin 10 (repairWithin 10 text).text).text = (repairWithin 10 text).text ∧
        (repairWithin 10 (repairWithin 10 text).text).fixes = []) ↔
      DueWithin 10 (Text.splitFeeds text.toList) := by
  have lines := repaired_lines text 10
  rw [← settled_passed 9, ← lines]
  constructor
  · rintro ⟨-, fixes⟩
    exact Classical.byContradiction fun unsettled => repair_fixes _ 9 unsettled fixes
  · intro settled
    rw [repair_settled _ 10 (by decide) settled]
    simp only [and_self]

theorem repair_final_due (text : String) :
    (∃ repaired again, repair text defaultLimit = .ok repaired ∧ repair repaired.text defaultLimit = .ok again ∧
        again.text = repaired.text ∧ again.fixes = []) ↔ DueWithin 10 (Text.splitFeeds text.toList) := by
  refine Iff.trans ?_ (second_repair_idle text)
  constructor
  · rintro ⟨repaired, again, first, second, same, none_made⟩
    rw [repair_default] at first
    obtain rfl := Except.ok.inj first
    rw [repair_default] at second
    obtain rfl := Except.ok.inj second
    exact ⟨same, none_made⟩
  · rintro ⟨same, none_made⟩
    exact ⟨_, _, repair_default text, repair_default _, same, none_made⟩

-- A repair with the default limit is final if and only if no rename of the document is due in a later pass.
theorem repair_idempotent_iff (text : String) :
    (∃ repaired again, repair text defaultLimit = .ok repaired ∧ repair repaired.text defaultLimit = .ok again ∧
        again.text = repaired.text ∧ again.fixes = []) ↔
      ∀ site ∈ (sites (fixOutline (Text.splitFeeds text.toList)).1).keys, ∀ pass name,
        renaming? site.key site.above = some (pass, name) → (pass : Int) ≤ defaultLimit := by
  have limits (pass : Nat) : (pass : Int) ≤ defaultLimit ↔ pass ≤ 10 := by
    show (pass : Int) ≤ 10 ↔ pass ≤ 10
    omega
  simp only [limits]
  exact repair_final_due text

def nestedLines : Lines :=
  "pipeline:".toList :: "  processors:".toList ::
    ((List.range 11).map fun depth => List.replicate (2 * depth + 2) ' ' ++ "- TRY:".toList) ++ [[]]

def nestedLists : String :=
  String.ofList (Text.joinFeeds nestedLines)

theorem nested_lists_lines : Text.splitFeeds nestedLists.toList = nestedLines := by
  have no_feed : ∀ line ∈ nestedLines, '\n' ∉ line := by decide
  rw [nestedLists, String.toList_ofList]
  exact split_join_feeds nestedLines ⟨by simp [nestedLines], no_feed⟩

theorem nested_lists_not_final :
    ¬ ∃ repaired again, repair nestedLists defaultLimit = .ok repaired ∧ repair repaired.text defaultLimit = .ok again ∧
        again.text = repaired.text ∧ again.fixes = [] := by
  rw [repair_final_due, nested_lists_lines]
  intro within
  have innermost : ⟨12, 24, "TRY", nestedLevels 10⟩ ∈ (sites (fixOutline nestedLines).1).keys := by
    decide +kernel
  have late : 11 ≤ 10 := within _ innermost 11 "try" (nested_renaming 10)
  omega

end PipelineLint
