import PipelineLint.Proofs.Edits
import PipelineLint.Proofs.LineEndings
import PipelineLint.Proofs.OpenEnds

set_option autoImplicit false

namespace PipelineLint

namespace Repair

open Expression

/-- The lines with a return behind each chosen one but the last. -/
def returned (chosen : List Char → Bool) : Lines → Lines
  | [] => []
  | [last] => [last]
  | line :: next :: rest => (if chosen line then line ++ ['\r'] else line) :: returned chosen (next :: rest)

theorem returned_cons (chosen : List Char → Bool) (line : List Char) (lines : Lines) (more : lines ≠ []) :
    returned chosen (line :: lines) = (if chosen line then line ++ ['\r'] else line) :: returned chosen lines := by
  cases lines with
  | nil => contradiction
  | cons next rest => rfl

theorem returned_closed (lines : Lines) (closed : ∀ line ∈ lines.dropLast, isOpenEnded line = false) :
    returned isOpenEnded lines = lines := by
  induction lines with
  | nil => rfl
  | cons line rest ih =>
      cases rest with
      | nil => rfl
      | cons next rest =>
          obtain ⟨here, others⟩ := List.forall_mem_cons.mp closed
          rw [returned_cons _ line _ (by simp), here, ih others]
          rfl

theorem returned_lines (chosen : List Char → Bool) (lines : Lines) (are : AreLines lines) : AreLines (returned chosen lines) := by
  obtain ⟨some_line, no_feed⟩ := are
  induction lines with
  | nil => contradiction
  | cons line rest ih =>
      obtain ⟨here, others⟩ := List.forall_mem_cons.mp no_feed
      cases rest with
      | nil => exact ⟨by simp [returned], no_feed⟩
      | cons next rest =>
          rw [returned_cons _ line _ (by simp)]
          refine ⟨by simp, List.forall_mem_cons.mpr ⟨?_, (ih (by simp) others).no_feed⟩⟩
          split
          · simp [here]
          · exact here

-- The same lines with returns behind all but the last, and with returns behind those with open ends alone. Nothing else
-- is seen in the first ones than in the second ones, so every rule keeps them twins.
inductive Twins : Lines → Lines → Prop where
  | last (line : List Char) : Twins [line] [line]
  | cons (line : List Char) (all few : Lines) (no_return : '\r' ∉ line) (rest : Twins all few) :
      Twins ((line ++ ['\r']) :: all) ((if isOpenEnded line then line ++ ['\r'] else line) :: few)

theorem twins_some_line (all few : Lines) (twins : Twins all few) : all ≠ [] ∧ few ≠ [] := by
  cases twins <;> simp

theorem returned_twins (lines : Lines) (some_line : lines ≠ []) (no_return : ∀ line ∈ lines, '\r' ∉ line) :
    Twins (returned (fun _ => true) lines) (returned isOpenEnded lines) := by
  induction lines with
  | nil => contradiction
  | cons line rest ih =>
      obtain ⟨here, others⟩ := List.forall_mem_cons.mp no_return
      cases rest with
      | nil => exact .last line
      | cons next rest => exact .cons line _ _ here (ih (List.cons_ne_nil next rest) others)

theorem line_calls_return (place : Place) (index : Nat) (line : List Char) (kind : CallKind) :
    callsIn kind (visit place index line).2.stretches (line ++ ['\r']) = callsIn kind (visit place index line).2.stretches line := by
  unfold callsIn
  refine List.flatMap_congr fun stretch member => ?_
  have inside := (visit_apart place index line).inside stretch member
  unfold Stretch.calls Stretch.text
  rw [List.take_append_of_le_length inside]

theorem twins_seen (place : Place) (index : Nat) (all few : Lines) (twins : Twins all few) :
    sitesFrom place index all = sitesFrom place index few ∧
      ∀ kind, callsThrough kind place index all = callsThrough kind place index few := by
  induction twins generalizing place index with
  | last line => exact ⟨rfl, fun _ => rfl⟩
  | cons line all few no_return rest ih =>
      simp only [sites_from_cons, callsThrough]
      cases opens : isOpenEnded line with
      | true =>
          obtain ⟨sites, calls⟩ := ih (visit place index (line ++ ['\r'])).1 (index + 1)
          simp only [if_true, sites, calls, implies_true, and_self]
      | false =>
          obtain ⟨sites, calls⟩ := ih (visit place index line).1 (index + 1)
          simp [visit_return place index line opens, line_calls_return, sites, calls]

theorem twins_sites (all few : Lines) (twins : Twins all few) : sites all = sites few :=
  (twins_seen {} 0 all few twins).1

theorem twins_calls (kind : CallKind) (all few : Lines) (twins : Twins all few) :
    (sites all).calls kind all = (sites few).calls kind few := by
  rw [calls_through, calls_through, (twins_seen {} 0 all few twins).2]

theorem twins_renamed (all few : Lines) (index : Nat) (before name after : List Char) (other : String)
    (twins : Twins all few) (stands : few[index]? = some (before ++ (name ++ after))) (no_return : '\r' ∉ other.toList)
    (visible : ∀ line, isOpenEnded line = true → before ++ (name ++ after) ≠ line ++ ['\r'])
    (closed : isOpenEnded (before ++ (name ++ after)) = false → isOpenEnded (before ++ (other.toList ++ after)) = false) :
    Twins (all.modify index (replaceRange before.length (before.length + name.length) other))
      (few.modify index (replaceRange before.length (before.length + name.length) other)) := by
  induction twins generalizing index with
  | last line =>
      cases index with
      | zero => exact .last _
      | succ index =>
          rw [List.modify_succ_cons, List.modify_nil]
          exact .last line
  | cons line all few here rest ih =>
      cases index with
      | succ index => exact .cons line _ _ here (ih index stands)
      | zero =>
          cases opens : isOpenEnded line with
          | true =>
              rw [opens, if_pos rfl] at stands
              exact absurd (Option.some.inj stands).symm (visible line opens)
          | false =>
              simp only [opens, Bool.false_eq_true, if_false] at stands ⊢
              obtain rfl := Option.some.inj stands
              have still := closed opens
              have longer := replace_range_name before name (after ++ ['\r']) other
              have free : '\r' ∉ before ++ (other.toList ++ after) := by
                simp only [List.mem_append, not_or] at here ⊢
                exact ⟨here.1, no_return, here.2.2⟩
              have both := Twins.cons (before ++ (other.toList ++ after)) all few free rest
              rw [still] at both
              simp only [List.modify_zero_cons, List.append_assoc, replace_range_name, longer]
              simpa using both

theorem twins_key (all few : Lines) (site : KeySite) (name : String) (twins : Twins all few) (on : site.IsOn few)
    (letters : isKeyName name.toList = true) : Twins (renameKey all site name) (renameKey few site name) := by
  obtain ⟨line, before, after, stands, named⟩ := on
  have alike := key_ends_alike line before after site name named letters
  have hidden := fun other opens => hidden_no_key other before after site opens
  have no_return := key_name_without '\r' (by decide) (by decide) _ letters
  obtain ⟨rfl, column, -⟩ := id named
  have renamed := twins_renamed all few site.line before site.key.toList after name twins stands no_return
    (fun other opens same => hidden other opens (same ▸ named)) (fun closed => alike.trans closed)
  rw [String.length_toList, ← column] at renamed
  exact renamed

theorem twins_keys (found : List (KeySite × String)) (all few : Lines) (twins : Twins all few)
    (on : ∀ entry ∈ found, entry.1.IsOn few) (apart : found.Pairwise fun first second => first.1.line ≠ second.1.line)
    (letters : ∀ entry ∈ found, isKeyName entry.2.toList = true) :
    Twins (found.foldl (fun lines (site, name) => renameKey lines site name) all)
      (found.foldl (fun lines (site, name) => renameKey lines site name) few) := by
  induction found generalizing all few with
  | nil => exact twins
  | cons entry found ih =>
      obtain ⟨site, name⟩ := entry
      obtain ⟨first, others⟩ := List.pairwise_cons.mp apart
      obtain ⟨here, elsewhere⟩ := List.forall_mem_cons.mp on
      obtain ⟨key, keys⟩ := List.forall_mem_cons.mp letters
      refine ih _ _ (twins_key all few site name twins here key) (fun other member => ?_) others keys
      exact key_on_elsewhere few other.1 site name (elsewhere other member) (first other member)

theorem twins_call (kind : CallKind) (all few : Lines) (call : CallPlace) (target : String) (twins : Twins all few)
    (are : AreLines few) (callable : IsCallable kind target.toList)
    (named : ∃ line before after, few[call.line]? = some line ∧ NamedAt line call before after) :
    Twins (renameCall call target all) (renameCall call target few) := by
  obtain ⟨line, before, after, stands, ⟨rfl, start, stop, -, opens⟩⟩ := named
  obtain ⟨gap, rest, bracket, -⟩ := opens (are.no_feed _ (List.mem_of_getElem? stands))
  have no_return := key_name_without '\r' (by decide) (by decide) _ (identifier_key_name _ callable.1)
  have closed : isOpenEnded (before ++ (target.toList ++ after)) = false := by
    refine Bool.eq_false_iff.mpr fun ends => open_no_bracket _ ends ?_
    simp [bracket]
  have renamed := twins_renamed all few call.line before call.name.toList after target twins stands no_return
    (fun other ends same => open_no_bracket other ends ?_) fun _ => closed
  · rw [String.length_toList, ← stop, ← start] at renamed
    exact renamed
  · have member : '(' ∈ other ++ ['\r'] := by
      rw [← same, bracket]
      simp
    simpa using member

theorem twins_rename_calls (kind : CallKind) (all few : Lines) (front back : List CallPlace) (twins : Twins all few)
    (are : AreLines few) (found : (sites few).calls kind few = front ++ back) :
    Twins (renameCalls (replacedCalls kind back) all) (renameCalls (replacedCalls kind back) few) := by
  induction back generalizing front with
  | nil => exact twins
  | cons call back ih =>
      have split : (sites few).calls kind few = (front ++ [call]) ++ back := by rw [found, List.append_assoc]; rfl
      have behind := ih (front ++ [call]) split
      rw [replaced_calls_cons]
      cases replaced : Catalog.callReplacement? kind call.name with
      | none => exact behind
      | some target =>
          obtain ⟨-, ⟨later, calls, -⟩, -⟩ := calls_renamed_behind kind few (front ++ [call]) back split
          rw [List.append_assoc] at calls
          have named := (call_named kind _ front later call calls).1
          have lines := renamed_lines few _ (rename_calls_renamed kind back few) are
          exact twins_call kind _ _ call target behind lines (replacement_callable kind call.name target replaced) named

theorem twins_outline (all few : Lines) (twins : Twins all few) :
    (fixOutline all).2 = (fixOutline few).2 ∧ Twins (fixOutline all).1 (fixOutline few).1 := by
  unfold fixOutline Sites.pipelineKeys
  simp only [twins_sites all few twins]
  split
  · exact ⟨rfl, twins⟩
  · split
    · exact ⟨rfl, twins⟩
    · rename_i site found
      have member := (List.mem_filter.mp (List.mem_of_find?_eq_some found)).1
      exact ⟨rfl, twins_key all few site _ twins (key_on few site member) (by decide)⟩

theorem twins_components (all few : Lines) (twins : Twins all few) :
    (fixComponents all).2 = (fixComponents few).2 ∧ Twins (fixComponents all).1 (fixComponents few).1 := by
  have found : misnamedComponents all = misnamedComponents few := by
    unfold misnamedComponents
    rw [twins_sites all few twins]
  obtain ⟨on, apart⟩ := misnamed_on few
  unfold fixComponents
  simp only [found, true_and]
  exact twins_keys _ all few twins on apart (misnamed_key_name few)

theorem twins_fix_calls (kind : CallKind) (all few : Lines) (twins : Twins all few) (are : AreLines few) :
    (fixCalls kind all).2 = (fixCalls kind few).2 ∧ Twins (fixCalls kind all).1 (fixCalls kind few).1 := by
  have found : misnamedCalls kind all = misnamedCalls kind few := by
    unfold misnamedCalls
    rw [twins_calls kind all few twins]
  unfold fixCalls
  simp only [found, true_and]
  exact twins_rename_calls kind all few [] _ twins are rfl

theorem twins_pass (all few : Lines) (twins : Twins all few) (are : AreLines few) :
    (pass all).2 = (pass few).2 ∧ Twins (pass all).1 (pass few).1 := by
  rw [pass_eq all, pass_eq few]
  simp only
  obtain ⟨outline, outlined⟩ := twins_outline all few twins
  have are := renamed_lines few _ (fix_outline_renamed few) are
  obtain ⟨components, renamed⟩ := twins_components _ _ outlined
  have are := renamed_lines _ _ (fix_components_renamed _) are
  obtain ⟨methods, called⟩ := twins_fix_calls .method _ _ renamed are
  have are := renamed_lines _ _ (fix_calls_renamed .method _) are
  obtain ⟨functions, last⟩ := twins_fix_calls .function _ _ called are
  exact ⟨by rw [outline, components, methods, functions], last⟩

theorem twins_passes (limit : Nat) (all few : Lines) (twins : Twins all few) (are : AreLines few) :
    (passes limit all).2 = (passes limit few).2 ∧ Twins (passes limit all).1 (passes limit few).1 := by
  induction limit generalizing all few with
  | zero => exact ⟨rfl, twins⟩
  | succ limit ih =>
      obtain ⟨fixes, once⟩ := twins_pass all few twins are
      obtain ⟨later, last⟩ := ih _ _ once (pass_lines few are)
      by_cases settled : Settled few
      · have idle := (pass_fixes all).mp (fixes.trans ((pass_fixes few).mpr settled))
        rw [passes_settled limit all idle, passes_settled limit few settled]
        exact ⟨rfl, twins⟩
      · have busy := mt (pass_fixes all).mpr (fixes.symm ▸ mt (pass_fixes few).mp settled)
        rw [passes_next limit all busy, passes_next limit few settled]
        exact ⟨by rw [fixes, later], last⟩

theorem twins_suggestions (all few : Lines) (twins : Twins all few) : suggestions all = suggestions few := by
  have calls : callSuggestions (sites few) all = callSuggestions (sites few) few := by
    funext kind
    have same := twins_calls kind all few twins
    rw [twins_sites all few twins] at same
    rw [callSuggestions, callSuggestions, same]
  unfold suggestions
  simp only [twins_sites all few twins, calls]

-- With returns in neither, two lines are the same as soon as they are with a return behind them where they have open ends.
theorem open_return_injective (line other : List Char) (here : '\r' ∉ line) (there : '\r' ∉ other)
    (same : (if isOpenEnded line then line ++ ['\r'] else line) = if isOpenEnded other then other ++ ['\r'] else other) :
    line = other := by
  split at same
  · split at same
    · exact List.append_cancel_right same
    · exact absurd (same ▸ List.mem_append_right line (List.mem_singleton.mpr rfl)) there
  · split at same
    · exact absurd (same ▸ List.mem_append_right other (List.mem_singleton.mpr rfl)) here
    · exact same

theorem twins_returned_iff (all few lines : Lines) (twins : Twins all few) (no_return : ∀ line ∈ lines, '\r' ∉ line) :
    all = returned (fun _ => true) lines ↔ few = returned isOpenEnded lines := by
  induction twins generalizing lines with
  | last line =>
      match lines with
      | [] => exact Iff.rfl
      | [other] => exact Iff.rfl
      | first :: second :: rest =>
          have more (chosen : List Char → Bool) : [line] ≠ returned chosen (first :: second :: rest) := by
            intro same
            have behind := (List.cons.inj same).2
            cases rest <;> simp [returned] at behind
          exact iff_of_false (more _) (more _)
  | cons line all few here rest ih =>
      obtain ⟨some_all, some_few⟩ := twins_some_line all few rest
      match lines with
      | [] => simp [returned]
      | [other] => simp [returned, some_all, some_few]
      | first :: second :: others =>
          obtain ⟨there, later⟩ := List.forall_mem_cons.mp no_return
          simp only [returned, if_true, List.cons.injEq, ih (second :: others) later]
          refine and_congr_left fun _ => ⟨fun same => ?_, fun same => ?_⟩
          · rw [List.append_cancel_right same]
          · rw [open_return_injective line first here there same]

theorem twins_no_return (all few : Lines) (twins : Twins all few) (no_return : ∀ line ∈ few, '\r' ∉ line) :
    returned isOpenEnded few = few := by
  induction twins with
  | last line => rfl
  | cons line all few _ rest ih =>
      obtain ⟨here, later⟩ := List.forall_mem_cons.mp no_return
      cases opens : isOpenEnded line with
      | true => simp [opens] at here
      | false =>
          simp only [Bool.false_eq_true, if_false]
          rw [returned_cons _ line few (twins_some_line all few rest).2, opens, ih later]
          rfl

end Repair

open Repair

/-- The document with a return in front of the line feed behind each chosen line. -/
def returnsBehind (chosen : List Char → Bool) (text : String) : String :=
  String.ofList (Text.joinFeeds (returned chosen (Text.splitFeeds text.toList)))

theorem Text.with_returns_line (line : List Char) (no_feed : '\n' ∉ line) (rest : List Char) :
    withReturns (line ++ rest) = line ++ withReturns rest := by
  induction line with
  | nil => rfl
  | cons c line ih =>
      simp only [List.mem_cons, not_or] at no_feed
      rw [List.cons_append, with_returns_cons, if_neg (Ne.symm no_feed.1), ih no_feed.2]
      rfl

theorem with_returns_lines (lines : Lines) (no_feed : ∀ line ∈ lines, '\n' ∉ line) :
    Text.withReturns (Text.joinFeeds lines) = Text.joinFeeds (returned (fun _ => true) lines) := by
  induction lines with
  | nil => rfl
  | cons line rest ih =>
      obtain ⟨here, others⟩ := List.forall_mem_cons.mp no_feed
      cases rest with
      | nil =>
          have whole := Text.with_returns_line line here []
          rw [List.append_nil] at whole
          rw [returned, Text.joinFeeds_singleton, whole]
          exact List.append_nil line
      | cons next rest =>
          have more : ∃ first later, returned (fun _ => true) (next :: rest) = first :: later := by
            cases rest <;> simp [returned]
          obtain ⟨first, later, behind⟩ := more
          have same := ih others
          rw [behind] at same
          rw [returned, behind, if_pos rfl, Text.joinFeeds_cons_cons, Text.joinFeeds_cons_cons, Text.with_returns_line line here,
            Text.with_returns_cons, if_pos rfl, same]
          simp

theorem returns_behind_all (text : String) : returnsBehind (fun _ => true) text = withReturns text := by
  unfold returnsBehind withReturns
  rw [← with_returns_lines _ (split_feeds_lines text.toList).no_feed, Text.joinFeeds_splitFeeds]

theorem split_returns (chosen : List Char → Bool) (text : String) :
    Text.splitFeeds (returnsBehind chosen text).toList = returned chosen (Text.splitFeeds text.toList) := by
  rw [returnsBehind, String.toList_ofList, split_join_feeds _ (returned_lines chosen _ (split_feeds_lines text.toList))]

theorem mem_split_feeds (text line : List Char) (c : Char) (member : line ∈ Text.splitFeeds text) (inside : c ∈ line) :
    c ∈ text := by
  induction text generalizing line with
  | nil =>
      obtain rfl := List.mem_singleton.mp member
      cases inside
  | cons d rest ih =>
      rw [Text.splitFeeds] at member
      split at member
      · rcases List.mem_cons.mp member with rfl | later
        · cases inside
        · exact List.mem_cons_of_mem d (ih line later inside)
      · cases lines : Text.splitFeeds rest with
        | nil => exact absurd lines (Text.splitFeeds_ne_nil rest)
        | cons first others =>
            rw [lines] at member ih
            rcases List.mem_cons.mp member with rfl | later
            · rcases List.mem_cons.mp inside with rfl | within
              · exact List.mem_cons_self
              · exact List.mem_cons_of_mem d (ih first List.mem_cons_self within)
            · exact List.mem_cons_of_mem d (ih line (List.mem_cons_of_mem first later) inside)

-- A repair of the document in another spelling makes the same corrections and suggestions, and its text is that of the
-- repair of the document in the other spelling.
def SameRepair (respelled : String → String) (limit : Int) (text : String) : Prop :=
  ∃ repaired again, repair text limit = .ok repaired ∧ repair (respelled text) limit = .ok again ∧
    again.text = respelled repaired.text ∧ again.fixes = repaired.fixes ∧ again.suggestions = repaired.suggestions

theorem same_text_iff (chosen : List Char → Bool) (lines other : Lines) (are : AreLines lines) (also : AreLines other) :
    String.ofList (Text.joinFeeds other) = returnsBehind chosen (String.ofList (Text.joinFeeds lines)) ↔
      other = returned chosen lines := by
  have whole : returnsBehind chosen (String.ofList (Text.joinFeeds lines)) =
      String.ofList (Text.joinFeeds (returned chosen lines)) := by
    rw [returnsBehind, String.toList_ofList, split_join_feeds _ are]
  rw [whole]
  constructor
  · intro same
    have parts := congrArg Text.splitFeeds (String.ofList_injective same)
    rwa [split_join_feeds _ also, split_join_feeds _ (returned_lines chosen _ are)] at parts
  · intro same
    rw [same]

theorem same_repair_lines (chosen : List Char → Bool) (count : Nat) (text : String) (lines : Lines) (some_pass : 1 ≤ count)
    (cut : Text.splitFeeds text.toList = lines) :
    SameRepair (returnsBehind chosen) count text ↔
      (passes count (returned chosen lines)).1 = returned chosen (passes count lines).1 ∧
        (passes count (returned chosen lines)).2.1 = (passes count lines).2.1 ∧
          suggestions (passes count (returned chosen lines)).1 = suggestions (passes count lines).1 := by
  have are : AreLines lines := cut ▸ split_feeds_lines text.toList
  have again : Text.splitFeeds (returnsBehind chosen text).toList = returned chosen lines := by rw [split_returns, cut]
  have kept (start : Lines) (starts : AreLines start) : AreLines (passes count start).1 := by
    rw [passes_lines]
    exact passed_lines count _ starts
  have texts := same_text_iff chosen (passes count lines).1 (passes count (returned chosen lines)).1 (kept lines are)
    (kept _ (returned_lines chosen _ are))
  rw [← texts]
  unfold SameRepair
  rw [repair_ok text count some_pass, repair_ok _ count some_pass, repair_within_eq, repair_within_eq, cut, again]
  constructor
  · rintro ⟨repaired, again, first, second, same⟩
    obtain rfl := Except.ok.inj first
    obtain rfl := Except.ok.inj second
    exact same
  · exact fun same => ⟨_, _, rfl, rfl, same⟩

-- Returns do not matter to a repair if and only if those behind the lines with open ends do not; and if there are none of
-- these, they do not matter.
theorem returns_ignored_iff (text : String) (limit : Int) (some_pass : 1 ≤ limit) (no_return : '\r' ∉ text.toList) :
    (SameRepair withReturns limit text ↔ SameRepair (returnsBehind isOpenEnded) limit text) ∧
      ((∀ line ∈ (Text.splitFeeds text.toList).dropLast, isOpenEnded line = false) → SameRepair withReturns limit text) := by
  obtain ⟨count, rfl⟩ := Int.eq_ofNat_of_zero_le (Int.le_trans (by decide) some_pass)
  have some_count : 1 ≤ count := by omega
  have are := split_feeds_lines text.toList
  have free : ∀ line ∈ Text.splitFeeds text.toList, '\r' ∉ line := fun line member inside =>
    no_return (mem_split_feeds _ line '\r' member inside)
  have still : ∀ line ∈ (passes count (Text.splitFeeds text.toList)).1, '\r' ∉ line := by
    rw [passes_lines]
    exact renamed_without '\r' (by decide) (by decide) _ _ (passed_renamed count _) free
  have twins := returned_twins _ are.some_line free
  obtain ⟨fixes, last⟩ := twins_passes count _ _ twins (returned_lines isOpenEnded _ are)
  have texts := twins_returned_iff _ _ _ last still
  have suggested := twins_suggestions _ _ last
  have spelled : withReturns = returnsBehind (fun _ => true) := funext fun text => (returns_behind_all text).symm
  rw [spelled, same_repair_lines _ count text _ some_count rfl, same_repair_lines _ count text _ some_count rfl, texts, fixes, suggested]
  refine ⟨Iff.rfl, fun closed => ?_⟩
  rw [returned_closed _ closed] at last ⊢
  exact ⟨(twins_no_return _ _ last still).symm, rfl, rfl⟩

def spacedKeys : String := "input: \n  kafaka: \x7b\x7d\noutput: \n  stdout: \x7b\x7d\n"

theorem returns_ignored_iff_spaced : (1 : Int) ≤ defaultLimit ∧ '\r' ∉ spacedKeys.toList ∧
    (∀ line ∈ (Text.splitFeeds spacedKeys.toList).dropLast, isOpenEnded line = false) ∧
      (repairWithin 10 spacedKeys).fixes = [.sure .component "kafaka" "kafka" 1] ∧
        SameRepair withReturns defaultLimit spacedKeys :=
  have closed : ∀ line ∈ (Text.splitFeeds spacedKeys.toList).dropLast, isOpenEnded line = false := by decide +kernel
  ⟨by decide, by decide, closed, by decide +kernel,
    (returns_ignored_iff spacedKeys defaultLimit (by decide) (by decide)).2 closed⟩

-- The same document without the spaces: with a return behind it, the key above the component is none.
def bareKeys : String := "input:\n  kafaka: \x7b\x7d\noutput:\n  stdout: \x7b\x7d\n"

theorem bare_key_return_matters : ¬SameRepair withReturns defaultLimit bareKeys := by
  rintro ⟨repaired, again, first, second, -, fixes, -⟩
  rw [repair_default] at first second
  obtain rfl := Except.ok.inj first
  obtain rfl := Except.ok.inj second
  have found : (repairWithin 10 bareKeys).fixes = [.sure .component "kafaka" "kafka" 1] := by decide +kernel
  have nothing : (repairWithin 10 (withReturns bareKeys)).fixes = [] := by decide +kernel
  rw [found, nothing] at fixes
  cases fixes

end PipelineLint
