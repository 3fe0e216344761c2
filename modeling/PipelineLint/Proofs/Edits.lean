import Mathlib.Data.List.Basic
import Mathlib.Data.List.Induction
import PipelineLint.Proofs.Convergence
import PipelineLint.Proofs.WholeNames

set_option autoImplicit false

namespace PipelineLint.Repair

open Expression

def FixKind.isLetter : FixKind → Char → Bool
  | .call _ => Text.isWord
  | _ => isKeyCharacter

-- Where names of a kind stand: a key leads its line and has a colon behind it, and a call has its bracket behind it.
def FixKind.Stands (kind : FixKind) (before name after : List Char) : Prop :=
  match kind with
  | .call _ => Opens after
  | _ => (∃ dash, leadOf (before ++ (name ++ after)) = .entry dash before.length) ∧ ∃ value, KeyTail after value

-- One whole name is replaced as a correction tells it: on its line, the name that it found, by its only candidate.
inductive Replaces (fix : Fix) (lines : Lines) : Lines → Prop where
  | name (index : Nat) (before name after : List Char) (target : String) (line : fix.line = some (index + 1 : Nat))
      (found : fix.found = fix.kind.decorate (String.ofList name)) (sure : fix.candidates = [target])
      (whole : IsWhole fix.kind.isLetter before name after) (place : fix.kind.Stands before name after)
      (stands : lines[index]? = some (before ++ (name ++ after))) :
      Replaces fix lines (lines.set index (before ++ (target.toList ++ after)))

inductive Edits : List Fix → Lines → Lines → Prop where
  | nil (lines : Lines) : Edits [] lines lines
  | cons (fix : Fix) (fixes : List Fix) (lines next last : Lines) (first : Replaces fix lines next)
      (others : Edits fixes next last) : Edits (fix :: fixes) lines last

theorem edits_one (fix : Fix) (lines next : Lines) (replaced : Replaces fix lines next) : Edits [fix] lines next :=
  .cons fix [] lines next next replaced (.nil next)

theorem edits_append (fixes more : List Fix) (lines next last : Lines) (first : Edits fixes lines next)
    (others : Edits more next last) : Edits (fixes ++ more) lines last := by
  induction first with
  | nil => exact others
  | cons fix fixes lines _ _ replaced _ ih => exact .cons fix (fixes ++ more) lines _ last replaced (ih others)

theorem edits_length (fixes : List Fix) (lines last : Lines) (edits : Edits fixes lines last) :
    last.length = lines.length := by
  induction edits with
  | nil => rfl
  | cons fix fixes lines next last replaced _ ih =>
      obtain ⟨index, before, name, after, target, _, _, _, _, _, _⟩ := replaced
      rw [ih, List.length_set]

theorem edits_elsewhere (fixes : List Fix) (lines last : Lines) (index : Nat) (edits : Edits fixes lines last)
    (unnamed : ∀ fix ∈ fixes, fix.line ≠ some (index + 1 : Nat)) : last[index]? = lines[index]? := by
  induction edits with
  | nil => rfl
  | cons fix fixes lines next last replaced _ ih =>
      obtain ⟨place, before, name, after, target, line, _, _, _, _, _⟩ := replaced
      have elsewhere : place ≠ index := by
        rintro rfl
        exact unnamed fix List.mem_cons_self line
      rw [ih fun other member => unnamed other (List.mem_cons_of_mem _ member), List.getElem?_set_ne elsewhere]

theorem sure_replaces (kind : FixKind) (lines : Lines) (index : Nat) (before after : List Char) (name target : String)
    (whole : IsWhole kind.isLetter before name.toList after) (place : kind.Stands before name.toList after)
    (stands : lines[index]? = some (before ++ (name.toList ++ after))) :
    Replaces (.sure kind name target index) lines (lines.set index (before ++ (target.toList ++ after))) :=
  .name index before name.toList after target rfl (by rw [String.ofList_toList]; rfl) rfl whole place stands

theorem modify_set (lines : Lines) (index : Nat) (line : List Char) (change : List Char → List Char)
    (stands : lines[index]? = some line) : lines.modify index change = lines.set index (change line) := by
  rw [List.modify_eq_set_getElem?, stands]
  rfl

theorem set_same (lines : Lines) (index : Nat) (line : List Char) (stands : lines[index]? = some line) :
    lines.set index line = lines := by
  obtain ⟨inside, rfl⟩ := List.getElem?_eq_some_iff.mp stands
  exact List.set_getElem_self inside

theorem rename_key_set (lines : Lines) (site : KeySite) (line before after : List Char) (name : String)
    (stands : lines[site.line]? = some line) (named : KeyAt line site before after) :
    renameKey lines site name = lines.set site.line (before ++ (name.toList ++ after)) := by
  obtain ⟨rfl, column, -, -, -⟩ := named
  have replaced := replace_range_name before site.key.toList after name
  rw [← column, String.length_toList] at replaced
  rw [renameKey, modify_set lines site.line _ _ stands, KeySite.stop, replaced]

def KeySite.IsOn (site : KeySite) (lines : Lines) : Prop :=
  ∃ line before after, lines[site.line]? = some line ∧ KeyAt line site before after

theorem key_on (lines : Lines) (site : KeySite) (member : site ∈ (sites lines).keys) : site.IsOn lines :=
  (key_named {} 0 lines site member).2

theorem key_replaces (kind : FixKind) (lines : Lines) (site : KeySite) (name : String)
    (keyed : ∀ called, kind ≠ .call called) (on : site.IsOn lines) :
    Replaces (.sure kind site.key name site.line) lines (renameKey lines site name) := by
  obtain ⟨line, before, after, stands, named⟩ := on
  rw [rename_key_set lines site line before after name stands named]
  obtain ⟨rfl, column, lead, behind, whole⟩ := named
  rw [column] at lead
  cases kind with
  | call called => exact absurd rfl (keyed called)
  | _ => exact sure_replaces _ lines site.line before after site.key name whole ⟨lead, behind⟩ stands

theorem outline_edits (lines : Lines) : Edits (fixOutline lines).2 lines (fixOutline lines).1 := by
  unfold fixOutline Sites.pipelineKeys
  simp only
  split
  · exact .nil lines
  · split
    · exact .nil lines
    · rename_i site found
      have member := (List.mem_filter.mp (List.mem_of_find?_eq_some found)).1
      exact edits_one _ _ _ (key_replaces .outline lines site Catalog.processorsKey nofun (key_on lines site member))

theorem keys_apart (place : Place) (index : Nat) (lines : Lines) :
    (sitesFrom place index lines).keys.Pairwise fun first second => first.line ≠ second.line := by
  induction lines generalizing place index with
  | nil => exact .nil
  | cons line rest ih =>
      rw [sites_from_keys, List.pairwise_append]
      refine ⟨?_, ih _ _, fun first here second later => ?_⟩
      · rw [(visit_shape place index line).2]
        unfold Shape.keys
        split
        · exact List.pairwise_singleton _ _
        · exact .nil
      · have beyond := (key_named _ _ rest second later).1
        rw [visit_keys_line place index line first here]
        omega

theorem key_on_elsewhere (lines : Lines) (site other : KeySite) (name : String) (on : site.IsOn lines)
    (elsewhere : other.line ≠ site.line) : site.IsOn (renameKey lines other name) := by
  obtain ⟨line, before, after, stands, named⟩ := on
  refine ⟨line, before, after, ?_, named⟩
  rw [renameKey, List.getElem?_modify_ne _ _ elsewhere, stands]

theorem keys_edits (found : List (KeySite × String)) (lines : Lines) (on : ∀ entry ∈ found, entry.1.IsOn lines)
    (apart : found.Pairwise fun first second => first.1.line ≠ second.1.line) :
    Edits (found.map fun (site, name) => .sure .component site.key name site.line) lines
      (found.foldl (fun lines (site, name) => renameKey lines site name) lines) := by
  induction found generalizing lines with
  | nil => exact .nil lines
  | cons entry found ih =>
      obtain ⟨site, name⟩ := entry
      obtain ⟨first, others⟩ := List.pairwise_cons.mp apart
      refine .cons _ _ lines _ _ (key_replaces .component lines site name nofun (on _ List.mem_cons_self)) (ih _ ?_ others)
      exact fun other member =>
        key_on_elsewhere lines other.1 site name (on other (List.mem_cons_of_mem _ member)) (first other member)

theorem misnamed_on (lines : Lines) : (∀ entry ∈ misnamedComponents lines, entry.1.IsOn lines) ∧
    (misnamedComponents lines).Pairwise fun first second => first.1.line ≠ second.1.line := by
  rw [misnamed_components]
  have source (entry : KeySite × String) (site : KeySite)
      (found : (keyReplacement? site.key site.above).map (site, ·) = some entry) : entry.1 = site := by
    obtain ⟨name, -, rfl⟩ := Option.map_eq_some_iff.mp found
    rfl
  constructor
  · intro entry member
    obtain ⟨site, inside, found⟩ := List.mem_filterMap.mp member
    rw [source entry site found]
    exact key_on lines site inside
  · refine (keys_apart {} 0 lines).filterMap _ fun first second differ one found other named => ?_
    rw [source one first found, source other second named]
    exact differ

theorem components_edits (lines : Lines) : Edits (fixComponents lines).2 lines (fixComponents lines).1 :=
  keys_edits _ lines (misnamed_on lines).1 (misnamed_on lines).2

theorem rename_calls_length (found : List (CallPlace × String)) (lines : Lines) :
    (renameCalls found lines).length = lines.length := by
  induction found with
  | nil => rfl
  | cons entry found ih => exact (List.length_modify _ _ _).trans ih

theorem replace_range_front (start stop : Nat) (name : String) (front : List Char) (order : start ≤ stop)
    (inside : stop < front.length) :
    (replaceRange start stop name front).getLast? = front.getLast? ∧
      start < (replaceRange start stop name front).length ∧
      ∀ rest, replaceRange start stop name (front ++ rest) = replaceRange start stop name front ++ rest := by
  unfold replaceRange
  refine ⟨?_, ?_, fun rest => ?_⟩
  · have last : (front.drop stop).getLast? = front.getLast? := by rw [List.getLast?_drop, if_neg (by omega)]
    rw [List.getLast?_append, last, List.getLast?_eq_some_getLast (List.ne_nil_of_length_pos (by omega)), Option.some_or]
  · simp only [List.length_append, List.length_take, List.length_drop]
    omega
  · rw [List.take_append_of_le_length (by omega), List.drop_append_of_le_length (by omega)]
    simp

theorem modify_other (lines : Lines) (index place : Nat) (line : List Char) (change : List Char → List Char)
    (differ : index ≠ place) :
    (lines.set index line).modify place change = (lines.modify place change).set index line := by
  rw [List.modify_eq_set_getElem?, List.modify_eq_set_getElem?, List.getElem?_set_ne differ]
  cases lines[place]? with
  | none => rfl
  | some text => exact List.set_comm _ _ differ

theorem set_modify (lines : Lines) (index : Nat) (line : List Char) (change : List Char → List Char) :
    (lines.modify index change).set index line = lines.set index line := by
  rw [List.modify_eq_set_getElem?]
  cases lines[index]? with
  | none => rfl
  | some text => exact List.set_set _

theorem rename_calls_front (found : List (CallPlace × String)) (lines : Lines) (index : Nat) (before : List Char)
    (inside : index < lines.length) (order : found.Pairwise fun first second => first.1.IsBefore second.1)
    (bound : ∀ entry ∈ found, entry.1.start ≤ entry.1.stop ∧ (entry.1.line = index → entry.1.stop < before.length)) :
    ∃ front, front.getLast? = before.getLast? ∧
      (∀ column < before.length, (∀ entry ∈ found, entry.1.line = index → column ≤ entry.1.start) →
        column < front.length) ∧
      ∀ rest, renameCalls found (lines.set index (before ++ rest)) = (renameCalls found lines).set index (front ++ rest) := by
  induction found with
  | nil => exact ⟨before, rfl, fun _ short _ => short, fun _ => rfl⟩
  | cons entry found ih =>
      obtain ⟨call, name⟩ := entry
      obtain ⟨first, order⟩ := List.pairwise_cons.mp order
      obtain ⟨⟨proper, short⟩, bound⟩ := List.forall_mem_cons.mp bound
      obtain ⟨front, last, long, same⟩ := ih order bound
      by_cases here : call.line = index
      · have reach : call.stop < front.length := by
          refine long call.stop (short here) fun other member there => ?_
          rcases first other member with above | ⟨-, ahead⟩
          · exact absurd (here.trans there.symm) (Nat.ne_of_lt above)
          · exact Nat.le_of_lt ahead
        obtain ⟨ends, reaches, rest_kept⟩ := replace_range_front call.start call.stop name front proper reach
        refine ⟨replaceRange call.start call.stop name front, ends.trans last, fun column _ least => ?_, fun rest => ?_⟩
        · exact Nat.lt_of_le_of_lt (least (call, name) List.mem_cons_self here) reaches
        · have stands : ((renameCalls found lines).set index (front ++ rest))[index]? = some (front ++ rest) :=
            List.getElem?_set_self (by rw [rename_calls_length]; exact inside)
          show (renameCalls found (lines.set index (before ++ rest))).modify call.line _ = _
          rw [same, here, modify_set _ index _ _ stands, List.set_set, rest_kept, ← here]
          exact (set_modify (renameCalls found lines) call.line _ _).symm
      · refine ⟨front, last, fun column inside least => ?_, fun rest => ?_⟩
        · exact long column inside fun other member => least other (List.mem_cons_of_mem _ member)
        · show (renameCalls found (lines.set index (before ++ rest))).modify call.line _ = _
          rw [same, modify_other _ index call.line _ _ fun there => here there.symm]
          rfl

theorem calls_ordered (kind : CallKind) (lines : Lines) (front back : List CallPlace)
    (found : (sites lines).calls kind lines = front ++ back) :
    front.Pairwise CallPlace.IsBefore ∧ ∀ call ∈ front, call.start ≤ call.stop := by
  induction front using List.reverseRecOn generalizing back with
  | nil => exact ⟨.nil, by simp⟩
  | append_singleton front call ih =>
      have split : (sites lines).calls kind lines = front ++ call :: back := by rw [found]; simp
      obtain ⟨⟨_, before, _, _, named⟩, order⟩ := call_named kind lines front back call split
      obtain ⟨ordered, proper⟩ := ih (call :: back) split
      refine ⟨?_, List.forall_mem_append.mpr ⟨proper, List.forall_mem_singleton.mpr ?_⟩⟩
      · rw [List.pairwise_append]
        refine ⟨ordered, List.pairwise_singleton _ _, fun first here second last => ?_⟩
        rw [List.mem_singleton.mp last]
        exact order first here
      · rw [named.start, named.stop]
        exact Nat.le_add_right _ _

theorem replaced_call (kind : CallKind) (calls : List CallPlace) (entry : CallPlace × String)
    (member : entry ∈ replacedCalls kind calls) : entry.1 ∈ calls := by
  obtain ⟨call, inside, found⟩ := List.mem_filterMap.mp member
  obtain ⟨name, -, rfl⟩ := Option.map_eq_some_iff.mp found
  exact inside

theorem replaced_calls_ordered (kind : CallKind) (calls : List CallPlace) (order : calls.Pairwise CallPlace.IsBefore) :
    (replacedCalls kind calls).Pairwise fun first second => first.1.IsBefore second.1 := by
  refine order.filterMap _ fun first second before one found other named => ?_
  obtain ⟨_, -, rfl⟩ := Option.map_eq_some_iff.mp found
  obtain ⟨_, -, rfl⟩ := Option.map_eq_some_iff.mp named
  exact before

theorem call_replaces (kind : CallKind) (lines : Lines) (front back : List CallPlace) (call : CallPlace) (target : String)
    (are : AreLines lines) (found : (sites lines).calls kind lines = front ++ call :: back) :
    Replaces (.sure (.call kind) call.name target call.line) (renameCalls (replacedCalls kind front) lines)
      (renameCalls (replacedCalls kind front) (renameCall call target lines)) := by
  obtain ⟨⟨line, before, after, stands, text, start, stop, whole, opens⟩, order⟩ :=
    call_named kind lines front back call found
  have bracket := opens (are.no_feed line (List.mem_of_getElem? stands))
  obtain ⟨ordered, proper⟩ := calls_ordered kind lines front (call :: back) found
  have inside := (List.getElem?_eq_some_iff.mp stands).1
  obtain ⟨shown, last, -, kept⟩ := rename_calls_front (replacedCalls kind front) lines call.line before inside
    (replaced_calls_ordered kind front ordered) fun entry member => by
      have earlier := replaced_call kind front entry member
      refine ⟨proper entry.1 earlier, fun here => ?_⟩
      rcases order entry.1 earlier with above | ⟨-, ahead⟩
      · exact absurd here (Nat.ne_of_lt above)
      · exact start ▸ ahead
  have renamed : renameCall call target lines = lines.set call.line (before ++ (target.toList ++ after)) := by
    have replaced := replace_range_name before call.name.toList after target
    rw [String.length_toList, ← stop, ← start] at replaced
    rw [renameCall, modify_set lines call.line line _ stands, text, replaced]
  have still : (renameCalls (replacedCalls kind front) lines)[call.line]? = some (shown ++ (call.name.toList ++ after)) := by
    rw [← rename_calls_length (replacedCalls kind front)] at inside
    rw [← set_same lines call.line line stands, text, kept, List.getElem?_set_self inside]
  have apart : IsWhole Text.isWord shown call.name.toList after := { whole with apart := last ▸ whole.apart }
  rw [renamed, kept]
  exact sure_replaces (.call kind) _ call.line shown after call.name target apart bracket still

-- The calls are renamed from the last to the first, which comes to the same as from the first to the last.
theorem calls_edits (kind : CallKind) (lines : Lines) (front back : List CallPlace) (are : AreLines lines)
    (found : (sites lines).calls kind lines = front ++ back) :
    Edits ((replacedCalls kind front).map fun (call, name) => .sure (.call kind) call.name name call.line) lines
      (renameCalls (replacedCalls kind front) lines) := by
  induction front using List.reverseRecOn generalizing back with
  | nil => exact .nil lines
  | append_singleton front call ih =>
      have split : (sites lines).calls kind lines = front ++ call :: back := by rw [found]; simp
      have edits := ih (call :: back) split
      cases replacement : Catalog.callReplacement? kind call.name with
      | none =>
          have skipped : replacedCalls kind (front ++ [call]) = replacedCalls kind front := by
            simp [replacedCalls, replacement]
          rw [skipped]
          exact edits
      | some target =>
          have taken : replacedCalls kind (front ++ [call]) = replacedCalls kind front ++ [(call, target)] := by
            simp [replacedCalls, replacement]
          rw [taken, List.map_append, renameCalls, List.foldr_append]
          exact edits_append _ _ _ _ _ edits (edits_one _ _ _ (call_replaces kind lines front back call target are split))

theorem fix_calls_edits (kind : CallKind) (lines : Lines) (are : AreLines lines) :
    Edits (fixCalls kind lines).2 lines (fixCalls kind lines).1 :=
  calls_edits kind lines _ [] are (List.append_nil _).symm

theorem pass_edits (lines : Lines) (are : AreLines lines) : Edits (pass lines).2 lines (pass lines).1 := by
  rw [pass_eq lines]
  simp only
  have outline := outline_edits lines
  have are := renamed_lines lines _ (fix_outline_renamed lines) are
  generalize fixOutline lines = outlined at *
  have components := components_edits outlined.1
  have are := renamed_lines _ _ (fix_components_renamed outlined.1) are
  generalize fixComponents outlined.1 = renamed at *
  have methods := fix_calls_edits .method renamed.1 are
  have are := renamed_lines _ _ (fix_calls_renamed .method renamed.1) are
  generalize fixCalls .method renamed.1 = called at *
  have functions := fix_calls_edits .function called.1 are
  exact edits_append _ _ _ _ _ (edits_append _ _ _ _ _ (edits_append _ _ _ _ _ outline components) methods) functions

theorem passes_edits (limit : Nat) (lines : Lines) (are : AreLines lines) :
    Edits (passes limit lines).2.1 lines (passes limit lines).1 := by
  induction limit generalizing lines with
  | zero => exact .nil lines
  | succ limit ih =>
      by_cases settled : Settled lines
      · rw [passes_settled limit lines settled]
        exact .nil lines
      · rw [passes_next limit lines settled]
        exact edits_append _ _ _ _ _ (pass_edits lines are) (ih _ (pass_lines lines are))

theorem passed_add (count more : Nat) (lines : Lines) : passed (count + more) lines = passed more (passed count lines) := by
  induction count generalizing lines with
  | zero => rw [Nat.zero_add]; rfl
  | succ count ih =>
      rw [Nat.succ_add]
      exact ih (pass lines).1

theorem passed_back (limit : Nat) (lines : Lines) (some_pass : 1 ≤ limit)
    (back : passed limit lines = lines) : Settled lines := by
  have again (count : Nat) : passed (count * limit) lines = lines := by
    induction count with
    | zero => rw [Nat.zero_mul]; rfl
    | succ count ih => rw [Nat.succ_mul, passed_add, ih, back]
  have due := due_within_lines lines
  have enough : lines.length ≤ (lines.length + 1) * limit :=
    Nat.le_trans (Nat.le_succ _) (Nat.le_mul_of_pos_right _ some_pass)
  have some_round : 1 ≤ (lines.length + 1) * limit := Nat.mul_pos (Nat.succ_pos lines.length) some_pass
  obtain ⟨count, positive⟩ := Nat.exists_eq_add_of_le' some_round
  have settled := (settled_passed count lines).mpr fun site member pass name found =>
    Nat.le_trans (due site member pass name found) (positive ▸ enough)
  rw [← positive, again] at settled
  exact settled

end PipelineLint.Repair

namespace PipelineLint

open Repair

-- A repair makes the replacements that its corrections tell, one after the other, and no other change; and it lists a
-- correction only if the text is another one in the end.
theorem repair_edits (text : String) (limit : Int) (some_pass : 1 ≤ limit) :
    ∃ repaired, repair text limit = .ok repaired ∧
      (Text.splitFeeds repaired.text.toList).length = (Text.splitFeeds text.toList).length ∧
      (∀ index : Nat, (∀ fix ∈ repaired.fixes, fix.line ≠ some (index + 1 : Nat)) →
        (Text.splitFeeds repaired.text.toList)[index]? = (Text.splitFeeds text.toList)[index]?) ∧
      Edits repaired.fixes (Text.splitFeeds text.toList) (Text.splitFeeds repaired.text.toList) ∧
      (repaired.fixes ≠ [] → repaired.text ≠ text) := by
  obtain ⟨count, rfl⟩ := Int.eq_ofNat_of_zero_le (Int.le_trans (by decide) some_pass)
  have some_count : 1 ≤ count := by omega
  have are := split_feeds_lines text.toList
  have lines := repaired_lines text count
  have edits : Edits (repairWithin count text).fixes (Text.splitFeeds text.toList)
      (Text.splitFeeds (repairWithin count text).text.toList) := by
    rw [lines, ← passes_lines]
    exact passes_edits count _ are
  refine ⟨repairWithin count text, repair_ok text count (by exact_mod_cast some_count), edits_length _ _ _ edits,
    fun index => edits_elsewhere _ _ _ index edits, edits, fun some_fix same => some_fix ?_⟩
  rw [same] at lines
  have settled := passed_back count _ some_count lines.symm
  rw [repair_settled text count (by exact_mod_cast some_count) settled]

def misnamedSample : String :=
  "input:\n  STDIN: \x7b\x7d\npipeline:\n  processors:\n    - mapping: root.a = this.upper().parseJson()\n"

theorem repair_edits_sample : (1 : Int) ≤ defaultLimit ∧
    ∃ repaired, repair misnamedSample defaultLimit = .ok repaired ∧
      repaired.fixes = [.sure .component "STDIN" "stdin" 1, .sure (.call .method) "upper" "uppercase" 4,
        .sure (.call .method) "parseJson" "parse_json" 4] ∧
      Edits repaired.fixes (Text.splitFeeds misnamedSample.toList) (Text.splitFeeds repaired.text.toList) ∧
      repaired.text ≠ misnamedSample := by
  obtain ⟨repaired, done, -, -, edits, changed⟩ := repair_edits misnamedSample defaultLimit (by decide)
  have fixes : repaired.fixes = [.sure .component "STDIN" "stdin" 1, .sure (.call .method) "upper" "uppercase" 4,
      .sure (.call .method) "parseJson" "parse_json" 4] := by
    rw [repair_default] at done
    obtain rfl := Except.ok.inj done
    decide +kernel
  exact ⟨by decide, repaired, done, fixes, edits, changed (by rw [fixes]; exact List.cons_ne_nil _ _)⟩

end PipelineLint
