import Mathlib.Data.List.Perm.Basic
import PipelineLint.Proofs.ReportedTypes

set_option autoImplicit false

namespace PipelineLint.Document

theorem separator_start (line : List Char) (separator : isSeparator line = true) : ['-', '-', '-'] <+: line := by
  obtain ⟨dropped, split, -⟩ := Text.dropTrailing_append_dropped Text.isBlank line
  have marked := List.isPrefixOf_iff_prefix.mp (Bool.and_eq_true_iff.mp separator).1
  exact marked.trans ⟨dropped, split.symm⟩

theorem silent_no_separator (line : List Char) (silent : isSilent line = true) : isSeparator line = false := by
  cases separator : isSeparator line with
  | false => rfl
  | true =>
      obtain ⟨rest, rfl⟩ := separator_start line separator
      cases silent

theorem row_no_separator (column : Nat) (text trail : List Char) (row : IsRowText text) (behind : Trail trail) :
    isSeparator (List.replicate column ' ' ++ (text ++ trail)) = false := by
  cases separator : isSeparator (List.replicate column ' ' ++ (text ++ trail)) with
  | false => rfl
  | true =>
      obtain ⟨rest, whole⟩ := separator_start _ separator
      cases column with
      | succ column =>
          rw [List.replicate_succ] at whole
          cases whole
      | zero =>
          rw [List.replicate_zero, List.nil_append] at whole
          rcases row_text_start text trail row behind with ⟨first, more, split, starts⟩ | split | ⟨more, split⟩ <;>
            rw [split] at whole
          · cases whole
            cases starts
          · cases whole
          · cases whole

theorem deep_no_separator (line : List Char) (deep : line.head?.all (· = ' ') = true) : isSeparator line = false := by
  cases separator : isSeparator line with
  | false => rfl
  | true =>
      obtain ⟨rest, rfl⟩ := separator_start line separator
      cases deep

theorem split_runs_one (lines : List (List Char)) (none_separates : ∀ line ∈ lines, isSeparator line = false) :
    splitRuns lines = [lines] := by
  induction lines with
  | nil => rfl
  | cons line lines ih =>
      obtain ⟨first, others⟩ := List.forall_mem_cons.mp none_separates
      rw [splitRuns, if_neg (by simp [first]), ih others]

theorem laid_out_no_separator (rows : List Row) (lines : List (List Char)) (laid : LaidOut rows lines)
    (are : ∀ row ∈ rows, IsRow row) :
    ∀ line ∈ Text.splitLines (Text.joinFeeds lines), isSeparator line = false := by
  induction laid with
  | nil => simp [Text.joinFeeds, List.intercalate, Text.splitLines]
  | filler line lines filler laid ih =>
      rw [split_lines_cons_lines line lines filler.one_line]
      split
      · simp
      · exact List.forall_mem_cons.mpr ⟨silent_no_separator line filler.silent, ih are⟩
  | @row row rows trail lines behind one_line resumes laid ih =>
      obtain ⟨here, others⟩ := List.forall_mem_cons.mp are
      rw [split_lines_row row trail lines here one_line resumes]
      refine List.forall_mem_cons.mpr ⟨row_no_separator row.column row.text trail here.text behind, ?_⟩
      exact List.forall_mem_append.mpr ⟨fun line member => deep_no_separator line (here.deep line member), ih others⟩

end PipelineLint.Document

namespace PipelineLint

open Document Repair Validation

theorem laid_out_pipeline (rows : List Row) (lines : List (List Char)) (laid : LaidOut rows lines)
    (are : ∀ row ∈ rows, IsRow row) :
    pipelineText? (Text.joinFeeds lines) = some (Text.joinFeeds lines) := by
  have runs := split_runs_one _ (laid_out_no_separator rows lines laid are)
  have few : (segments (Text.joinFeeds lines)).length ≤ 1 := by
    rw [segments, runs, List.length_map]
    exact List.length_filter_le _ _
  unfold pipelineText?
  simp only
  cases held : segments (Text.joinFeeds lines) with
  | nil => rfl
  | cons first others =>
      rw [held] at few
      obtain rfl : others = [] := List.eq_nil_of_length_eq_zero (by simp only [List.length_cons] at few; omega)
      cases pipeline : isPipeline first <;> simp [pipeline]

def sureName? (found : String × Category) : Option String :=
  (Catalog.componentReplacement? found.1 found.2).map fun _ => found.1

def sureNames (errors : List Problem) : List String :=
  (errors.filterMap Validation.reported?).filterMap sureName?

def Repair.ReadKey.reported? (key : ReadKey) : Option String :=
  key.category.bind fun category => sureName? (key.key, category)

theorem unknown_sure_names (keys : List ReadKey) :
    (keys.filterMap ReadKey.unknown?).filterMap sureName? = keys.filterMap ReadKey.reported? := by
  rw [List.filterMap_filterMap]
  refine congrArg (fun f => List.filterMap f keys) (funext fun key => ?_)
  unfold ReadKey.unknown? ReadKey.reported?
  cases key.category with
  | none => rfl
  | some category =>
      by_cases known : Catalog.isKnown key.key category = true
      · simp [known, sureName?, Catalog.component_replacement_of_known key.key category known]
      · simp [known]

theorem written_diagnosed (options : Options) (ranked : options.floor.rank?.isSome = true) (entries : Entries)
    (writable : Writable (.map entries)) (errors : List Problem) (checked : documentProblems entries = .ok errors) :
    ∃ diagnosis, diagnose options (.map entries) = .ok diagnosis ∧ diagnosis.errors = errors := by
  have components : ∀ slot ∈ documentSlots entries, ∀ part, Visits slot part → part.IsReadable :=
    fun slot member => (slot_problems_answer slot).mp ((document_problems_answer entries).mp ⟨errors, checked⟩ slot member)
  have buffer : ∀ slot ∈ sectionSlots entries .buffer, slot.IsReadable := by
    intro slot member
    unfold sectionSlots at member
    split at member
    · rename_i value found
      rw [List.mem_singleton.mp member]
      rintro held rfl
      obtain ⟨key, inside⟩ := Entries.get?_eq_some_mem found
      exact texts_readable held (writable_keys held ((writable_keys entries writable).2.2 _ inside)).1
    · cases member
  obtain ⟨diagnosis, answered⟩ := (diagnose_answers options (.map entries) ranked).mpr fun others same =>
    Value.map.inj same ▸ ⟨components, fun _ => buffer⟩
  refine ⟨diagnosis, answered, ?_⟩
  unfold diagnose at answered
  simp only [checked] at answered
  split at answered <;> cases answered
  rfl

theorem laid_out_diagnosed (options : Options) (column : Nat) (value : Value) (rows : List Row) (lines : Lines)
    (written : BlockRows column value rows) (laid : LaidOut rows lines) :
    diagnoseText options (String.ofList (Text.joinFeeds lines)) = diagnose options (merged value) := by
  have read := laid_out_value column value rows lines written laid
  rw [diagnoseText, String.toList_ofList, laid_out_pipeline rows lines laid (block_rows_are written)]
  simp only [read]

section Written

variable (entries : Entries) (writable : Writable (.map entries)) (column : Nat)
  (rows : List Row) (lines : Lines) (written : BlockRows column (.map entries) rows) (laid : LaidOut rows lines)

include writable written laid

theorem written_sure_names : ∃ diagnosis, diagnoseText {} (String.ofList (Text.joinFeeds lines)) = .ok diagnosis ∧
    (sureNames diagnosis.errors).Perm ((documentKeys entries).filterMap ReadKey.reported?) := by
  obtain ⟨errors, found, same⟩ := document_reports entries writable
  obtain ⟨diagnosis, answered, held⟩ := written_diagnosed {} rfl entries writable errors found
  have checked := laid_out_diagnosed {} column _ rows lines written laid
  rw [writable_merged _ writable, answered] at checked
  refine ⟨diagnosis, checked, ?_⟩
  rw [held, sureNames, ← unknown_sure_names]
  exact same.filterMap sureName?

end Written

def renamedNames (repaired : Repaired) : List String :=
  (repaired.fixes.filter fun fix => fix.kind = .component).map Fix.found

def Repair.ReadKey.renamed? (key : ReadKey) : Option String :=
  (keyReplacement? key.key key.above).map fun _ => key.key

theorem repair_once (text : String) : (repairWithin 1 text).fixes = (pass (Text.splitFeeds text.toList)).2 := by
  rw [repair_within_eq]
  simp only [passes]
  generalize pass (Text.splitFeeds text.toList) = outcome
  obtain ⟨next, fixes⟩ := outcome
  cases fixes <;> simp

theorem pass_components (lines : Lines) (outlined : (fixOutline lines).2 = []) :
    (pass lines).2.filter (fun fix => fix.kind = .component) = (fixComponents lines).2 := by
  have calls (kind : CallKind) (lines : Lines) : (fixCalls kind lines).2.filter (fun fix => fix.kind = .component) = [] := by
    refine List.filter_eq_nil_iff.mpr fun fix member => ?_
    obtain ⟨⟨call, name⟩, -, rfl⟩ := List.mem_map.mp member
    simp [Fix.sure]
  have components : (fixComponents lines).2.filter (fun fix => fix.kind = .component) = (fixComponents lines).2 := by
    refine List.filter_eq_self.mpr fun fix member => ?_
    obtain ⟨⟨site, name⟩, -, rfl⟩ := List.mem_map.mp member
    rfl
  have whole := pass_eq lines
  simp only [fix_outline_idle lines ((fix_outline_fixes lines).mp outlined)] at whole
  rw [whole]
  simp only [List.filter_append, calls, components, List.nil_append, List.append_nil]

theorem components_found (lines : Lines) (keys : List ReadKey)
    (paths : (sites lines).keys.map KeySite.path = keys.map ReadKey.path) :
    (fixComponents lines).2.map Fix.found = (keys.filterMap ReadKey.renamed?).map FixKind.component.decorate := by
  have sites_named : (fixComponents lines).2.map Fix.found =
      (((sites lines).keys.map KeySite.path).filterMap fun path =>
        (keyReplacement? path.1 path.2).map fun _ => path.1).map FixKind.component.decorate := by
    unfold fixComponents
    simp only [misnamed_components, replacedKeys, List.filterMap_map, List.map_filterMap]
    refine congrArg (fun f => List.filterMap f _) (funext fun site => ?_)
    simp only [Function.comp_apply, KeySite.path, Option.map_map]
    cases keyReplacement? site.key site.above <;> rfl
  rw [sites_named, paths, List.filterMap_map]
  rfl

-- The names that only the repair takes for those of components, and the names that only the check does.
def renamedOnly (keys : List ReadKey) : List String :=
  keys.filterMap fun key => if key.reported?.isSome then none else key.renamed?

def reportedOnly (keys : List ReadKey) : List String :=
  keys.filterMap fun key => if key.renamed?.isSome then none else key.reported?

theorem shared_names (keys : List ReadKey) : ∃ shared : List String,
    (keys.filterMap ReadKey.renamed?).Perm (shared ++ renamedOnly keys) ∧
      (keys.filterMap ReadKey.reported?).Perm (shared ++ reportedOnly keys) := by
  induction keys with
  | nil => exact ⟨[], .nil, .nil⟩
  | cons key keys ih =>
      obtain ⟨shared, renamed, reported⟩ := ih
      have named (name : String) : key.renamed? = some name → name = key.key := by
        intro found
        obtain ⟨-, -, same⟩ := Option.map_eq_some_iff.mp found
        exact same.symm
      have called (name : String) : key.reported? = some name → name = key.key := by
        intro found
        obtain ⟨category, -, sure⟩ := Option.bind_eq_some_iff.mp found
        obtain ⟨-, -, same⟩ := Option.map_eq_some_iff.mp sure
        exact same.symm
      unfold renamedOnly at renamed ⊢
      unfold reportedOnly at reported ⊢
      simp only [List.filterMap_cons]
      cases one : key.renamed? with
      | none =>
          cases other : key.reported? with
          | none => exact ⟨shared, by simpa using renamed, by simpa using reported⟩
          | some name =>
              have added := (reported.cons name).trans List.perm_middle.symm
              exact ⟨shared, by simpa using renamed, by simpa using added⟩
      | some name =>
          obtain rfl := named name one
          cases other : key.reported? with
          | none =>
              have added := (renamed.cons key.key).trans List.perm_middle.symm
              exact ⟨shared, by simpa using added, by simpa using reported⟩
          | some name =>
              obtain rfl := called name other
              exact ⟨key.key :: shared, by simpa using renamed, by simpa using reported⟩

theorem names_same_iff (keys : List ReadKey) :
    (keys.filterMap ReadKey.renamed?).Perm (keys.filterMap ReadKey.reported?) ↔
      (renamedOnly keys).Perm (reportedOnly keys) := by
  obtain ⟨shared, renamed, reported⟩ := shared_names keys
  constructor
  · intro same
    exact (List.perm_append_left_iff shared).mp (renamed.symm.trans (same.trans reported))
  · intro same
    exact renamed.trans (((List.perm_append_left_iff shared).mpr same).trans reported.symm)

theorem reported_only_unseen (entries : Entries) (key : ReadKey) (member : key ∈ documentKeys entries)
    (reported : key.reported?.isSome = true) (kept : key.renamed? = none) : Unseen key.above := by
  obtain ⟨name, found⟩ := Option.isSome_iff_exists.mp reported
  obtain ⟨category, named, sure⟩ := Option.bind_eq_some_iff.mp found
  obtain ⟨target, replaced, -⟩ := Option.map_eq_some_iff.mp sure
  rcases read_keys_seen .document [] rfl (.map entries) key member category named with ⟨seen, type⟩ | unseen
  · have no_metadata : Catalog.isMetadata key.key = false := by
      rcases type with plain | processors
      · exact plain
      · have owner := Catalog.owner_kept "processors" (by decide) category (Category.mem_all category)
        rw [processors, owner] at replaced
        cases replaced
    have renamed : key.renamed? = some key.key := by
      simp [ReadKey.renamed?, keyReplacement?, no_metadata, seen, replaced]
    rw [renamed] at kept
    cases kept
  · exact unseen

theorem decorated_perm_iff (names others : List String) :
    (names.map FixKind.component.decorate).Perm (others.map FixKind.component.decorate) ↔ names.Perm others := by
  refine List.map_perm_map_iff fun first second same => ?_
  have letters : (first ++ ":").toList = (second ++ ":").toList := congrArg String.toList same
  rw [String.toList_append, String.toList_append, List.append_left_inj] at letters
  exact String.toList_inj.mp letters

section Written

variable (entries : Entries) (column : Nat) (rows : List Row) (lines : Lines)

theorem written_renamed_names (apart : ListsApart (.map entries)) (written : BlockRows column (.map entries) rows)
    (laid : LaidOut rows lines) (outlined : (fixOutline lines).2 = []) :
    renamedNames (repairWithin 1 (String.ofList (Text.joinFeeds lines))) =
      ((documentKeys entries).filterMap ReadKey.renamed?).map FixKind.component.decorate := by
  have split := split_join_feeds lines (written_are_lines column (.map entries) rows lines written laid)
  have paths := laid_out_paths column (.map entries) rows lines written laid apart
  rw [split, ← read_keys_paths .document [] (.map entries)] at paths
  rw [renamedNames, repair_once, String.toList_ofList, split, pass_components lines outlined,
    components_found lines (documentKeys entries) paths]

-- One pass renames the names that the check reports with a sure replacement exactly when the keys that only one of
-- the two takes for components have the same names. The check alone does so below `buffer`, `fallback` and `for_each`.
theorem sure_names_renamed_iff (writable : Writable (.map entries)) (apart : ListsApart (.map entries))
    (written : BlockRows column (.map entries) rows) (laid : LaidOut rows lines) (outlined : (fixOutline lines).2 = []) :
    ∃ diagnosis, diagnoseText {} (String.ofList (Text.joinFeeds lines)) = .ok diagnosis ∧
      ((renamedNames (repairWithin 1 (String.ofList (Text.joinFeeds lines)))).Perm
          ((sureNames diagnosis.errors).map FixKind.component.decorate) ↔
        (renamedOnly (documentKeys entries)).Perm (reportedOnly (documentKeys entries))) ∧
      ∀ key ∈ documentKeys entries, key.reported?.isSome = true → key.renamed? = none → Unseen key.above := by
  obtain ⟨diagnosis, answered, reported⟩ := written_sure_names entries writable column rows lines written laid
  refine ⟨diagnosis, answered, ?_, reported_only_unseen entries⟩
  rw [written_renamed_names entries column rows lines apart written laid outlined, decorated_perm_iff, ← names_same_iff]
  exact ⟨fun same => same.trans reported, fun same => same.trans reported.symm⟩

end Written

def listed (names : List String) : Value :=
  .map (names.map fun name => (.str name, .null))

def inputNames (names : List String) : Entries :=
  [(.str "input", listed names), (.str "output", listed ["stdout"])]

def listedRows (names : List String) : List Row :=
  names.map fun name => ⟨2, entryText name [], []⟩

def inputRows (names : List String) : List Row :=
  ⟨0, entryText "input" [], []⟩ :: listedRows names ++ ⟨0, entryText "output" [], []⟩ :: listedRows ["stdout"]

section Inputs

variable (names : List String) (named : ∀ name ∈ names, isWrittenKey name.toList = true)

include named

theorem listed_written (some_name : names ≠ []) : BlockRows 2 (listed names) (listedRows names) := by
  refine .map (by simpa using some_name) ?_
  clear some_name
  induction names with
  | nil => exact .nil
  | cons name names ih =>
      obtain ⟨first, others⟩ := List.forall_mem_cons.mp named
      exact .cons [_] (listedRows names) first (.inline [] .null) (ih others)

theorem inputs_written (some_name : names ≠ []) : BlockRows 0 (.map (inputNames names)) (inputRows names) := by
  have output : BlockRows 2 (listed ["stdout"]) (listedRows ["stdout"]) :=
    listed_written ["stdout"] (List.forall_mem_singleton.mpr (by decide)) (by simp)
  exact .map (by simp [inputNames]) (.cons (_ :: listedRows names) (_ :: listedRows ["stdout"]) (by decide)
    (.nested 2 _ (by decide) (listed_written names named some_name))
    (.cons (_ :: listedRows ["stdout"]) [] (by decide) (.nested 2 _ (by decide) output) .nil))

theorem listed_writable (distinct : names.Nodup) : Writable (listed names) := by
  refine .map _ (List.forall_mem_map.mpr fun name member => ⟨name, rfl, named name member⟩) ?_
    (List.forall_mem_map.mpr fun _ _ => .inline _ _ .null)
  rw [Entries.keys, List.map_map]
  exact List.Pairwise.map _ (fun _ _ differ same => differ (Scalar.str.inj same)) distinct

theorem inputs_writable (distinct : names.Nodup) : Writable (.map (inputNames names)) := by
  have input := listed_writable names named distinct
  have output := listed_writable ["stdout"] (List.forall_mem_singleton.mpr (by decide)) (by simp)
  exact pair_writable "input" "output" _ _ (by decide) (by decide) (by decide) input output

end Inputs

theorem inputs_apart (names : List String) : ListsApart (.map (inputNames names)) := by
  have nulls (names : List String) : ListsApart (listed names) := by
    rw [listed, ListsApart]
    induction names with
    | nil => trivial
    | cons name names ih => exact ⟨trivial, ih⟩
  exact ⟨nulls names, nulls ["stdout"], trivial⟩

def inputLines (names : List String) : Lines :=
  (inputRows names).map (fun row => List.replicate row.column ' ' ++ (row.text ++ [])) ++ [[]]

theorem inputs_laid_out (names : List String) : LaidOut (inputRows names) (inputLines names) := by
  have blank : LaidOut [] [[]] := .filler [] [] ⟨rfl, rfl⟩ .nil
  have bare : ∀ row ∈ inputRows names, row.body = [] := by
    simp only [inputRows, listedRows, List.forall_mem_append, List.forall_mem_cons, List.forall_mem_map, List.cons_append,
      implies_true, and_self]
  unfold inputLines
  generalize inputRows names = rows at bare
  induction rows with
  | nil => exact blank
  | cons row rows ih =>
      obtain ⟨here, others⟩ := List.forall_mem_cons.mp bare
      have laid := @LaidOut.row row rows [] _ .none rfl (.inl here) (ih others)
      rw [here] at laid
      exact laid

theorem sure_names_renamed_iff_input :
    Writable (.map (inputNames ["kafaka"])) ∧ ListsApart (.map (inputNames ["kafaka"])) ∧
    BlockRows 0 (.map (inputNames ["kafaka"])) (inputRows ["kafaka"]) ∧
    LaidOut (inputRows ["kafaka"]) (inputLines ["kafaka"]) ∧ (fixOutline (inputLines ["kafaka"])).2 = [] ∧
    ∃ diagnosis, diagnoseText {} "input:\n  kafaka:\noutput:\n  stdout:\n" = .ok diagnosis ∧
      (renamedNames (repairWithin 1 "input:\n  kafaka:\noutput:\n  stdout:\n")).Perm
        ((sureNames diagnosis.errors).map FixKind.component.decorate) := by
  have named : ∀ name ∈ ["kafaka"], isWrittenKey name.toList = true := List.forall_mem_singleton.mpr (by decide)
  have writable := inputs_writable ["kafaka"] named (by simp)
  have written := inputs_written ["kafaka"] named (by simp)
  have text : String.ofList (Text.joinFeeds (inputLines ["kafaka"])) = "input:\n  kafaka:\noutput:\n  stdout:\n" := by decide
  have outlined : (fixOutline (inputLines ["kafaka"])).2 = [] := by decide
  obtain ⟨diagnosis, answered, same, -⟩ := sure_names_renamed_iff (inputNames ["kafaka"]) 0 (inputRows ["kafaka"])
    (inputLines ["kafaka"]) writable (inputs_apart ["kafaka"]) written (inputs_laid_out ["kafaka"]) outlined
  rw [text] at answered same
  have renamed : renamedOnly (documentKeys (inputNames ["kafaka"])) = [] := by decide +kernel
  have reported : reportedOnly (documentKeys (inputNames ["kafaka"])) = [] := by decide +kernel
  refine ⟨writable, inputs_apart _, written, inputs_laid_out _, outlined, diagnosis, answered, same.mpr ?_⟩
  rw [renamed, reported]

-- The type of the input is its first key, and the check does not look at the second one.
theorem sibling_renamed_unreported : ∃ diagnosis,
    diagnoseText {} "input:\n  stdin:\n  kafaka:\noutput:\n  stdout:\n" = .ok diagnosis ∧
      sureNames diagnosis.errors = [] ∧
      renamedNames (repairWithin 1 "input:\n  stdin:\n  kafaka:\noutput:\n  stdout:\n") = ["kafaka:"] := by
  have named : ∀ name ∈ ["stdin", "kafaka"], isWrittenKey name.toList = true :=
    List.forall_mem_cons.mpr ⟨by decide, List.forall_mem_singleton.mpr (by decide)⟩
  have writable := inputs_writable ["stdin", "kafaka"] named (by simp)
  have written := inputs_written ["stdin", "kafaka"] named (by simp)
  have text : String.ofList (Text.joinFeeds (inputLines ["stdin", "kafaka"])) =
      "input:\n  stdin:\n  kafaka:\noutput:\n  stdout:\n" := by decide
  obtain ⟨diagnosis, answered, same⟩ := written_sure_names _ writable 0 _ _ written (inputs_laid_out _)
  have renamed := written_renamed_names _ 0 _ _ (inputs_apart _) written (inputs_laid_out _) (by decide)
  have reported : (documentKeys (inputNames ["stdin", "kafaka"])).filterMap ReadKey.reported? = [] := by decide +kernel
  have only : (documentKeys (inputNames ["stdin", "kafaka"])).filterMap ReadKey.renamed? = ["kafaka"] := by decide +kernel
  rw [reported] at same
  rw [only] at renamed
  rw [text] at answered renamed
  exact ⟨diagnosis, answered, same.eq_nil, renamed⟩

end PipelineLint
