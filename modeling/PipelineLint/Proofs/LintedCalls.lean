import Mathlib.Data.List.Basic
import PipelineLint.Expression.Lint
import PipelineLint.Proofs.CallRanges
import PipelineLint.Proofs.NearestNames

set_option autoImplicit false

namespace PipelineLint.Expression

theorem call_some_range (text : List Char) (site : CallSite) (member : site ∈ calls text) : site.start < site.stop := by
  obtain ⟨lexemes, lexed⟩ := lexed_total text
  have some_name := (call_exact text site member lexemes lexed).1
  exact Nat.lt_add_of_pos_right (List.length_pos_iff.mpr some_name)

theorem ordered_calls_increasing (text : List Char) :
    (orderedCalls text).Pairwise fun site other => site.start < other.start := by
  have sorted : (orderedCalls text).Pairwise fun site other => site.start ≤ other.start := by
    refine (List.pairwise_mergeSort ?_ ?_ (calls text)).imp of_decide_eq_true
    · intro a b c first second
      exact decide_eq_true (Nat.le_trans (of_decide_eq_true first) (of_decide_eq_true second))
    · intro a b
      simpa using Nat.le_total a.start b.start
  have apart : (orderedCalls text).Pairwise CallSite.IsApart :=
    (List.mergeSort_perm (calls text) _).symm.pairwise (calls_apart text) fun {_ _} apart => Or.symm apart
  refine (sorted.and apart).imp_of_mem fun {site other} first second both => ?_
  have here := call_some_range text site (List.mem_mergeSort.mp first)
  have there := call_some_range text other (List.mem_mergeSort.mp second)
  rcases both with ⟨order, between | between⟩ <;> omega

def CallSite.called (site : CallSite) : String × CallKind :=
  (String.ofList site.name, site.kind)

def AppearsBefore (text : List Char) (call other : String × CallKind) : Prop :=
  ∃ site ∈ calls text, site.called = call ∧ ∀ later ∈ calls text, later.called = other → site.start < later.start

theorem called_names_distinct (text : List Char) :
    calledNames text = Name.distinct ((orderedCalls text).map CallSite.called) := rfl

theorem mem_called_names (text : List Char) (call : String × CallKind) :
    call ∈ calledNames text ↔ ∃ site ∈ calls text, site.called = call := by
  rw [called_names_distinct, Name.mem_distinct]
  simp [orderedCalls]

theorem called_names_ordered (text : List Char) : (calledNames text).Pairwise (AppearsBefore text) := by
  have increasing := ordered_calls_increasing text
  rw [called_names_distinct]
  refine (Name.distinct_ordered ((orderedCalls text).map CallSite.called)).imp_of_mem fun {call other} first _ order => ?_
  obtain ⟨front, back, whole, absent⟩ := List.eq_append_cons_of_mem ((Name.mem_distinct _ call).mp first)
  obtain ⟨before, behind, split, fronts, backs⟩ := List.map_eq_append_iff.mp whole
  obtain ⟨site, after, rfl, called, -⟩ := List.map_eq_cons_iff.mp backs
  have member (later : CallSite) : later ∈ calls text ↔ later ∈ before ++ site :: after := by
    rw [← split]
    exact List.mem_mergeSort.symm
  refine ⟨site, (member site).mpr (by simp), called, fun later found same => ?_⟩
  rw [split] at increasing
  rcases List.mem_append.mp ((member later).mp found) with early | here
  · -- A call of the other name in front would put that name in front.
    have in_front : other ∈ front := by
      rw [← fronts, ← same]
      exact List.mem_map_of_mem early
    rw [whole, List.idxOf_append_of_mem in_front, List.idxOf_append_of_notMem absent] at order
    exact absurd (List.idxOf_lt_length_of_mem in_front) (by omega)
  · rcases List.mem_cons.mp here with rfl | behind
    · rw [← called, same] at order
      exact absurd order (Nat.lt_irrefl _)
    · exact (List.pairwise_cons.mp (List.pairwise_append.mp increasing).2.1).1 later behind

def messageAround (kind : CallKind) (wrongKind : Bool) : String × String :=
  match kind, wrongKind with
  | .method, true => ("\"", "\" is a function, not a method")
  | .function, true => ("\"", "\" is a method, not a function")
  | .method, false => ("Unknown Bloblang method \".", "()\"")
  | .function, false => ("Unknown Bloblang function \"", "()\"")

theorem misnamed_message (name : String) (kind : CallKind) (resolution : Option Resolution) :
    ∃ wrongKind, (misnamedText name kind resolution).1 =
      (messageAround kind wrongKind).1 ++ name ++ (messageAround kind wrongKind).2 := by
  have unknown : "Unknown Bloblang " ++ kind.name ++ " \"" ++ kind.render name ++ "\"" =
      (messageAround kind false).1 ++ name ++ (messageAround kind false).2 := by
    cases kind <;> simp [← String.toList_inj, CallKind.name, CallKind.render, messageAround]
  unfold misnamedText
  cases resolution with
  | none => exact ⟨false, unknown⟩
  | some resolution =>
      simp only
      split
      · cases kind <;> exact ⟨true, rfl⟩
      · split <;> exact ⟨false, unknown⟩

theorem misnamed_finding_injective (name other location : String) (kind another : CallKind)
    (resolution choice : Option Resolution)
    (same : misnamedFinding name kind resolution location = misnamedFinding other another choice location) :
    (name, kind) = (other, another) := by
  have rules : misnamedRule kind = misnamedRule another := congrArg Finding.rule same
  have kinds : kind = another := by
    cases kind <;> cases another <;> simp_all [misnamedRule]
  subst kinds
  have messages : (misnamedText name kind resolution).1 = (misnamedText other kind choice).1 := congrArg Finding.message same
  obtain ⟨wrong, message⟩ := misnamed_message name kind resolution
  obtain ⟨also, again⟩ := misnamed_message other kind choice
  rw [message, again] at messages
  have wrongs : wrong = also := by
    have heads := congrArg (fun message => message.toList.head?) messages
    cases kind <;> cases wrong <;> cases also <;> simp [messageAround] at heads ⊢
  subst wrongs
  simpa using messages

def report? (location : String) (call : String × CallKind) : Option ((String × CallKind) × Finding) :=
  (callFinding? location call).map fun finding => (call, finding)

def IsReport (location : String) (call : String × CallKind) (finding : Finding) : Prop :=
  ∃ resolution, classify call.1 call.2 = .misnamed resolution ∧
    finding = misnamedFinding call.1 call.2 resolution location

theorem report_iff (location : String) (call : String × CallKind) (entry : (String × CallKind) × Finding) :
    report? location call = some entry ↔ entry.1 = call ∧ IsReport location call entry.2 := by
  obtain ⟨about, finding⟩ := entry
  unfold report? callFinding? IsReport
  cases verdict : classify call.1 call.2 <;> simp [eq_comm, and_comm]

theorem reports_sublist (location : String) (called : List (String × CallKind)) :
    List.Sublist ((called.filterMap (report? location)).map Prod.fst) called := by
  induction called with
  | nil => exact .slnil
  | cons call called ih =>
      cases found : report? location call with
      | none =>
          rw [List.filterMap_cons_none found]
          exact ih.cons call
      | some entry =>
          obtain ⟨about, -⟩ := (report_iff location call entry).mp found
          rw [List.filterMap_cons_some found, List.map_cons, about]
          exact ih.cons_cons call

def reports (location : String) (claimed : List String) (called : List (String × CallKind)) :
    List ((String × CallKind) × Finding) :=
  (called.filter fun call => !claimed.contains call.1).filterMap (report? location)

theorem reports_findings (location : String) (claimed : List String) (called : List (String × CallKind)) :
    (reports location claimed called).map Prod.snd =
      (called.filter fun call => !claimed.contains call.1).filterMap (callFinding? location) := by
  unfold reports
  rw [List.map_filterMap]
  refine List.filterMap_congr fun call _ => ?_
  show (report? location call).map Prod.snd = callFinding? location call
  unfold report?
  cases callFinding? location call <;> rfl

theorem reports_within (location : String) (claimed : List String) (called : List (String × CallKind)) :
    List.Sublist ((reports location claimed called).map Prod.fst) called :=
  (reports_sublist location _).trans List.filter_sublist

theorem mem_reports (location : String) (claimed : List String) (called : List (String × CallKind)) (call : String × CallKind)
    (finding : Finding) : (call, finding) ∈ reports location claimed called ↔
      call ∈ called ∧ call.1 ∉ claimed ∧ IsReport location call finding := by
  unfold reports
  simp only [List.mem_filterMap, List.mem_filter, report_iff]
  constructor
  · rintro ⟨_, ⟨member, free⟩, rfl, misnamed⟩
    exact ⟨member, by simpa using free, misnamed⟩
  · rintro ⟨member, free, misnamed⟩
    exact ⟨call, ⟨member, by simpa using free⟩, rfl, misnamed⟩

theorem reports_apart (location : String) (claimed : List String) (called : List (String × CallKind)) (apart : called.Nodup) :
    ((reports location claimed called).map Prod.snd).Nodup := by
  have calls := apart.sublist (reports_within location claimed called)
  refine List.pairwise_map.mpr ((List.pairwise_map.mp calls).imp_of_mem fun {entry other} first second differ same => ?_)
  obtain ⟨-, -, resolution, -, here⟩ := (mem_reports location claimed called entry.1 entry.2).mp first
  obtain ⟨-, -, choice, -, there⟩ := (mem_reports location claimed called other.1 other.2).mp second
  exact differ (misnamed_finding_injective _ _ location _ _ resolution choice (here.symm.trans (same.trans there)))

def ruleOrder : List String :=
  AntiPattern.all.map AntiPattern.rule

-- The mistakes of an expression in the order of the table, and the reports of its misnamed calls in the order of appearance,
-- each with the call that it is about.
structure Linted (text : List Char) (location : String) (fired : List AntiPattern)
    (reported : List ((String × CallKind) × Finding)) : Prop where
  fires : ∀ mistake, mistake ∈ fired ↔ mistake ∈ AntiPattern.all ∧ mistake.fires text = true
  table : fired.Pairwise fun mistake other => ruleOrder.idxOf mistake.rule < ruleOrder.idxOf other.rule
  exact : ∀ name kind, (name, kind) ∈ reported.map Prod.fst ↔ (∃ site ∈ calls text, site.called = (name, kind)) ∧
    (∃ resolution, classify name kind = .misnamed resolution) ∧ ∀ mistake ∈ fired, name ∉ mistake.claims
  told : ∀ call finding, (call, finding) ∈ reported → IsReport location call finding ∧ finding.rule ∉ ruleOrder
  once : (reported.map Prod.fst).Nodup ∧ (reported.map Prod.snd).Nodup
  ordered : (reported.map Prod.fst).Pairwise (AppearsBefore text)

theorem table_order : AntiPattern.all.Pairwise fun mistake other =>
    ruleOrder.idxOf mistake.rule < ruleOrder.idxOf other.rule := by
  decide +kernel

theorem misnamed_rules (kind : CallKind) : misnamedRule kind ∉ ruleOrder := by
  cases kind <;> decide +kernel

def claimedBy (fired : List AntiPattern) : List String :=
  fired.flatMap AntiPattern.claims

theorem reports_exact (text : List Char) (location : String) (fired : List AntiPattern) (name : String) (kind : CallKind) :
    (name, kind) ∈ (reports location (claimedBy fired) (calledNames text)).map Prod.fst ↔
      (∃ site ∈ calls text, site.called = (name, kind)) ∧ (∃ resolution, classify name kind = .misnamed resolution) ∧
        ∀ mistake ∈ fired, name ∉ mistake.claims := by
  have free : name ∉ claimedBy fired ↔ ∀ mistake ∈ fired, name ∉ mistake.claims := by
    simp [claimedBy]
  simp only [List.mem_map, Prod.exists, exists_and_right, exists_eq_right, mem_reports, mem_called_names, free]
  constructor
  · rintro ⟨finding, called, unclaimed, resolution, misnamed, -⟩
    exact ⟨called, ⟨resolution, misnamed⟩, unclaimed⟩
  · rintro ⟨called, ⟨resolution, misnamed⟩, unclaimed⟩
    exact ⟨_, called, unclaimed, resolution, misnamed, rfl⟩

theorem report_told (location : String) (call : String × CallKind) (finding : Finding)
    (report : IsReport location call finding) : finding.rule ∉ ruleOrder ∧ finding.location = location := by
  obtain ⟨resolution, -, rfl⟩ := report
  exact ⟨misnamed_rules call.2, rfl⟩

theorem reports_linted (text : List Char) (location : String) (fired : List AntiPattern)
    (fires : fired = AntiPattern.all.filter fun mistake => mistake.fires text) :
    Linted text location fired (reports location (claimedBy fired) (calledNames text)) where
  fires mistake := by rw [fires, List.mem_filter]
  table := by
    rw [fires]
    exact table_order.filter _
  exact := reports_exact text location fired
  told call finding member := by
    obtain ⟨-, -, report⟩ := (mem_reports location _ _ call finding).mp member
    exact ⟨report, (report_told location call finding report).1⟩
  once := ⟨(Name.distinct_nodup _).sublist (reports_within location _ _), reports_apart location _ _ (Name.distinct_nodup _)⟩
  ordered := (called_names_ordered text).sublist (reports_within location _ _)

-- The mistakes that fire come first, in the order of the table, and then the calls that are misnamed and not claimed by one of
-- them, each once and in the order of appearance. All of it carries the location.
theorem misnamed_calls_reported (expression location : String) :
    ∃ fired reported, Linted expression.toList location fired reported ∧
      lint expression location = fired.map (·.finding location) ++ reported.map Prod.snd ∧
      ∀ finding ∈ lint expression location, finding.location = location := by
  let fired := AntiPattern.all.filter fun mistake => mistake.fires expression.toList
  let reported := reports location (claimedBy fired) (calledNames expression.toList)
  have linted : Linted expression.toList location fired reported := reports_linted expression.toList location fired rfl
  have split : lint expression location = fired.map (·.finding location) ++ reported.map Prod.snd := by
    rw [reports_findings]
    rfl
  refine ⟨fired, reported, linted, split, fun finding member => ?_⟩
  rw [split] at member
  rcases List.mem_append.mp member with mistake | report
  · obtain ⟨mistake, -, rfl⟩ := List.mem_map.mp mistake
    rfl
  · obtain ⟨⟨call, finding⟩, entry, rfl⟩ := List.mem_map.mp report
    exact (report_told location call finding (linted.told call finding entry).1).2

end PipelineLint.Expression
