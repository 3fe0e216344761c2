import PipelineLint.Proofs.CorrectedDocuments
import PipelineLint.Proofs.CorrectedExpressions
import PipelineLint.Proofs.ProcessorsKeys
import PipelineLint.Proofs.SureNames

set_option autoImplicit false

namespace PipelineLint.Repair

open Document Validation

theorem entry_path (above : List Level) (entries : Entries) (path : KeyPath) (member : path ∈ entryPaths above entries) :
    ∃ entry ∈ entries, path = (entry.1.display, above) ∨ path ∈ keyPaths (.key entry.1.display :: above) entry.2 := by
  induction entries with
  | nil => cases member
  | cons entry entries ih =>
      rcases List.mem_cons.mp member with here | later
      · exact ⟨entry, List.mem_cons_self, .inl here⟩
      · rcases List.mem_append.mp later with inside | others
        · exact ⟨entry, List.mem_cons_self, .inr inside⟩
        · obtain ⟨other, found, place⟩ := ih others
          exact ⟨other, List.mem_cons_of_mem _ found, place⟩

mutual

theorem path_below (above : List Level) : (value : Value) → ∀ path ∈ keyPaths above value, above <:+ path.2
  | .scalar _ => nofun
  | .list items => fun path member => (List.suffix_cons .item above).trans (item_path_below above items path member)
  | .map entries => entry_path_below above entries

theorem item_path_below (above : List Level) : (items : List Value) → ∀ path ∈ itemPaths above items, .item :: above <:+ path.2
  | [] => nofun
  | item :: items => by
      have here := path_below (.item :: above) item
      have later := item_path_below above items
      rw [itemPaths, List.forall_mem_append]
      exact ⟨here, later⟩

theorem entry_path_below (above : List Level) : (entries : Entries) → ∀ path ∈ entryPaths above entries, above <:+ path.2
  | [] => nofun
  | (key, value) :: entries => by
      have here := path_below (.key key.display :: above) value
      have later := entry_path_below above entries
      rw [entryPaths, List.forall_mem_cons, List.forall_mem_append]
      exact ⟨List.suffix_refl above, fun path member => (List.suffix_cons _ above).trans (here path member), later⟩

end

theorem pipeline_path (document : Entries) (key : String) (member : (key, [.key "pipeline"]) ∈ keyPaths [] (.map document)) :
    ∃ owner entries, (owner, .map entries) ∈ document ∧ owner.display = "pipeline" ∧
      ∃ entry ∈ entries, key = entry.1.display := by
  have deeper {level : Level} {path : KeyPath} (below : level :: [.key "pipeline"] <:+ path.2)
      (here : path.2 = [.key "pipeline"]) : False := by
    have length := below.length_le
    rw [here] at length
    simp at length
  obtain ⟨⟨owner, value⟩, given, top | inside⟩ := entry_path [] document _ member
  · cases top
  · have same : owner.display = "pipeline" := by
      have whole := (path_below _ value _ inside).eq_of_length rfl
      simpa using whole
    rw [same] at inside
    cases value with
    | scalar s => cases inside
    | list items => exact (deeper (item_path_below _ items _ inside) rfl).elim
    | map entries =>
        obtain ⟨entry, found, here | below⟩ := entry_path _ entries _ inside
        · exact ⟨owner, entries, given, same, entry, found, (Prod.mk.inj here).1⟩
        · exact (deeper (path_below _ entry.2 _ below) rfl).elim

theorem field_of_entry (entries : Entries) (name : String) (value : Value) (distinct : (Entries.keys entries).Nodup)
    (member : (.str name, value) ∈ entries) : Entries.field? entries name = some value := by
  induction entries with
  | nil => cases member
  | cons entry entries ih =>
      obtain ⟨new, distinct⟩ := List.nodup_cons.mp distinct
      rw [Entries.field?, Entries.get?, List.find?_cons]
      rcases List.mem_cons.mp member with rfl | later
      · simp
      · have other : entry.1.sameKey (.str name) = false := by
          cases same : entry.1.sameKey (.str name) with
          | false => rfl
          | true =>
              rw [(Scalar.sameKey_str_iff _ name).mp same] at new
              exact absurd (List.mem_map_of_mem later) new
        rw [other]
        exact ih distinct later

theorem valid_outline_settled (document : Entries) (writable : Writable (.map document))
    (nothing : pipelineProblems (Entries.fieldOrNull document "pipeline") = []) (lines : Lines)
    (paths : (sites lines).keys.map KeySite.path = keyPaths [] (.map document)) : OutlineSettled (sites lines).keys := by
  refine .inr fun site member above => ?_
  have path : (site.key, [.key "pipeline"]) ∈ keyPaths [] (.map document) := by
    rw [← paths, ← above]
    exact List.mem_map_of_mem member
  obtain ⟨owner, entries, given, named, ⟨key, value⟩, inside, same⟩ := pipeline_path document site.key path
  obtain ⟨texts, distinct, inner⟩ := writable_keys document writable
  obtain ⟨owner, rfl⟩ := texts _ given
  obtain rfl : owner = "pipeline" := named
  obtain ⟨key, rfl⟩ := (writable_keys entries (inner _ given)).1 _ inside
  rw [Entries.fieldOrNull, field_of_entry document "pipeline" _ distinct given] at nothing
  have allowed := List.filter_eq_nil_iff.mp (List.map_eq_nil_iff.mp nothing) (.str key) (List.mem_map_of_mem inside)
  have listed : key ∈ pipelineKeys := by simpa [isOneOf] using allowed
  have apart : ∀ name ∈ pipelineKeys, name ∉ Catalog.processorsSynonyms := by decide
  rw [same]
  exact apart key listed

theorem rename_corrected (count : Nat) (lines : Lines) (settled : OutlineSettled (sites lines).keys) (site : KeySite)
    (member : site ∈ (sites lines).keys) (pass : Nat) (name : String) (due : renaming? site.key site.above = some (pass, name))
    (done : pass ≤ count) : ∃ fix ∈ (passes count lines).2.1, name ∈ fix.candidates := by
  have positive := renaming_positive site.key name site.above pass due
  induction count generalizing lines site pass with
  | zero => omega
  | succ count ih =>
      have outlined := fix_outline_idle lines settled
      by_cases idle : Settled lines
      · have never := settled_due lines idle site (by rw [outlined]; exact member) pass name due
        omega
      · rw [passes_next count lines idle]
        by_cases first : pass = 1
        · subst first
          have replaced := (renaming_due site.key name site.above).mp due
          have found : (site, name) ∈ misnamedComponents lines := by
            rw [misnamed_components]
            exact List.mem_filterMap.mpr ⟨site, member, by rw [replaced]; rfl⟩
          refine ⟨.sure .component site.key name site.line, List.mem_append_left _ ?_, List.mem_singleton_self name⟩
          rw [pass_eq lines]
          simp only [outlined, List.nil_append]
          exact List.mem_append_left _ (List.mem_append_left _ (List.mem_map.mpr ⟨(site, name), found, rfl⟩))
        · have later : site.advanced ∈ (sites (Repair.pass lines).1).keys := by
            rw [pass_keys, outlined]
            exact List.mem_map_of_mem member
          have sooner : renaming? site.advanced.key site.advanced.above = some (pass - 1, name) := by
            rw [renaming_site_advanced, due]
            simp only [nearer, Option.bind_some, if_neg (show ¬ pass ≤ 1 by omega)]
          obtain ⟨fix, made, candidate⟩ := ih _ (pass_outline lines) site.advanced later (pass - 1) sooner (by omega) (by omega)
          exact ⟨fix, List.mem_append_right _ made, candidate⟩

theorem name_after_written (count : Nat) (key : String) (above : List Level) (written : isWrittenKey key.toList = true) :
    isWrittenKey (nameAfter count key above).toList = true := by
  rcases name_after_cases count key above with kept | ⟨pass, -, due⟩
  · rw [kept]
    exact written
  · obtain ⟨-, category, replaced⟩ := renaming_replacement key _ above pass due
    exact names_written category _ (List.contains_iff_mem.mp (Catalog.component_replacement_known key _ category replaced))

theorem inline_unchanged (count : Nat) (value : Value) (text : List Char) (inline : Inline value text) (above : List Level) :
    valueAfter count above value = value := by
  cases inline with
  | items listed =>
      rw [valueAfter, items_after_map, List.map_congr_left fun item member => ?_, List.map_id]
      obtain ⟨s, rfl⟩ := flow_items_scalars _ _ listed item member
      rfl
  | _ => rfl

theorem corrected_writable (count : Nat) (value : Value) (writable : Writable value) :
    ∀ above, Distinct (valueAfter count above value) → Writable (valueAfter count above value) := by
  induction writable with
  | inline value text inline =>
      intro above _
      rw [inline_unchanged count value text inline above]
      exact .inline value text inline
  | text s mark lines text => exact fun _ _ => .text s mark lines text
  | list items _ behind ih =>
      intro above distinct
      rw [valueAfter, items_after_map] at distinct ⊢
      refine .list _ (List.forall_mem_map.mpr fun item member => ih item member _ ?_)
        (List.forall_mem_map.mpr fun item member s same => ?_)
      · exact (distinct_items_iff _).mp distinct _ (List.mem_map_of_mem member)
      · cases item with
        | scalar other => exact behind _ member s same
        | list _ => cases same
        | map _ => cases same
  | map entries keys _ _ ih =>
      rintro above ⟨apart, distinct⟩
      have nodup := keys_apart_nodup _ apart
      rw [valueAfter]
      rw [entries_after_map] at nodup ⊢
      refine .map _ (List.forall_mem_map.mpr fun entry member => ?_) nodup (List.forall_mem_map.mpr fun entry member => ?_)
      · obtain ⟨key, same, written⟩ := keys entry member
        rw [same]
        exact ⟨_, rfl, name_after_written count key above written⟩
      · exact ih entry member _ (distinct_entry count above entries entry.1 entry.2 member distinct)

end PipelineLint.Repair

namespace PipelineLint

open Document Repair Validation

section Written

variable (document : Entries) (apart : ListsApart (.map document)) (column : Nat) (rows : List Row) (lines : Lines)
  (written : BlockRows column (.map document) rows) (laid : LaidOut rows lines)

include apart written laid

theorem written_paths : (sites lines).keys.map KeySite.path = keyPaths [] (.map document) := by
  have paths := laid_out_paths column (.map document) rows lines written laid apart
  rw [split_join_feeds lines (written_are_lines column _ rows lines written laid)] at paths
  exact paths

theorem written_quiet (settled : OutlineSettled (sites lines).keys) (limit : Nat)
    (free : ∀ fix ∈ (repairWithin limit (String.ofList (Text.joinFeeds lines))).fixes,
      ∀ name ∈ fix.candidates, name ∉ expressionKeys) : Quiet limit (keyPaths [] (.map document)) := by
  have split := split_join_feeds lines (written_are_lines column _ rows lines written laid)
  rw [repair_within_eq, String.toList_ofList, split] at free
  rw [← written_paths document apart column rows lines written laid]
  refine List.forall_mem_map.mpr fun site member expression => ?_
  rcases name_after_cases limit site.key site.above with kept | ⟨pass, done, due⟩
  · rw [KeySite.path, kept] at expression
    exact expression
  · obtain ⟨fix, made, candidate⟩ := rename_corrected limit lines settled site member pass _ due done
    exact absurd expression (free fix made _ candidate)

-- The outline of a document without errors is not corrected. If no call is corrected either, the document keeps its values
-- below the keys that it gets; and if no two of these have met, then nothing is wrong with it but in its expressions, and
-- nothing at all if no key has become one of an expression.
theorem valid_document_stays_valid (options : Options) (known : options.floor ∈ [Severity.error, .warning, .info])
    (writable : Writable (.map document)) (diagnosis : Diagnosis)
    (checked : diagnoseText options (String.ofList (Text.joinFeeds lines)) = .ok diagnosis) (valid : diagnosis.errors = [])
    (limit : Nat) (some_pass : 1 ≤ limit) :
    ∃ repaired, repair (String.ofList (Text.joinFeeds lines)) limit = .ok repaired ∧
      (∀ fix ∈ repaired.fixes, fix.kind ≠ .outline) ∧
      ((∀ fix ∈ repaired.fixes, ¬ IsCallFix fix) →
        readDocument repaired.text = .ok (merged (valueAfter limit [] (.map document))) ∧
        (Distinct (valueAfter limit [] (.map document)) →
          ∃ again, diagnoseText options repaired.text = .ok again ∧
            again.errors = expressionProblems (entriesAfter limit [] document) ∧
            ((∀ fix ∈ repaired.fixes, ∀ name ∈ fix.candidates, name ∉ expressionKeys) → again.errors = []))) := by
  have none : NoProblems document := by
    rw [laid_out_diagnosed options column _ rows lines written laid, writable_merged _ writable] at checked
    obtain ⟨same, equal, nothing⟩ := valid_diagnosis options _ diagnosis checked valid
    obtain rfl : document = same := Value.map.inj equal
    exact (document_problems_none document).mp nothing
  have inside : pipelineProblems (Entries.fieldOrNull document "pipeline") = [] := (List.append_eq_nil_iff.mp none.foreign).2
  have paths := written_paths document apart column rows lines written laid
  have settled := valid_outline_settled document writable inside lines paths
  refine ⟨_, repair_ok _ limit some_pass, fun fix made => ?_, fun no_call => ?_⟩
  · have split := split_join_feeds lines (written_are_lines column _ rows lines written laid)
    rw [repair_within_eq, String.toList_ofList, split] at made
    simpa using List.filter_eq_nil_iff.mp (passes_outline_none limit lines settled) fix made
  · obtain ⟨text, indent, others, again, still⟩ :=
      repaired_rows limit column _ rows lines writable apart written laid settled no_call
    rw [text]
    refine ⟨laid_out_read indent _ others _ again still, fun distinct => ?_⟩
    have errors := document_corrected limit document writable distinct none
    obtain ⟨result, answered, found⟩ := written_diagnosed options (known_ranked _ known) _
      (corrected_writable limit (.map document) writable [] distinct) _ errors
    refine ⟨result, ?_, found, fun free => ?_⟩
    · rw [laid_out_diagnosed options indent _ others _ again still, distinct_merged _ distinct]
      exact answered
    · have quiet := written_quiet document apart column rows lines written laid settled limit free
      have silent := findings_corrected limit (.map document) [] "" "" quiet (List.map_eq_nil_iff.mp none.expressions)
      rw [found, expressionProblems]
      exact List.map_eq_nil_iff.mpr silent

end Written

-- The check does not look at the second key of an output.
theorem siblings_valid (key : String) (named : isWrittenKey key.toList = true) (other : key ≠ "stdout") :
    ∃ diagnosis, diagnoseText {} (String.ofList (Text.joinFeeds (siblingLines key))) = .ok diagnosis ∧ diagnosis.errors = [] := by
  have writable := siblings_writable key named other
  have output : slotProblems ⟨"output", .output, .map [(.str "stdout", .map []), (.str key, .int 5)]⟩ = .ok [] := by
    have beside : slotsBeside "output" .output [(.str "stdout", .map []), (.str key, .int 5)] = [] := by
      by_cases listed : key = "processors" <;>
        simp [slotsBeside, fieldSlots, Entries.field?, Entries.get?, listed, listSlots]
    have within : slotsWithin (keyed "output" "stdout") .output "stdout" (.map []) = [] := by
      simp [slotsWithin, Catalog.wrappers, plainSlots]
    exact (slot_problems_none _ _ _).mpr ⟨_, "stdout", rfl, ⟨rfl, rfl⟩, rfl, by simp [beside], within ▸ List.forall_mem_nil _⟩
  have errors : documentProblems [(.str "input", .map [(.str "stdin", .map [])]),
      (.str "output", .map [(.str "stdout", .map []), (.str key, .int 5)])] = .ok [] :=
    (document_problems_none _).mpr ⟨rfl, stdin_section _ rfl, output, rfl, rfl, rfl, rfl⟩
  obtain ⟨diagnosis, answered, none_found⟩ := written_diagnosed {} rfl _ writable [] errors
  refine ⟨diagnosis, ?_, none_found⟩
  rw [laid_out_diagnosed {} 0 _ _ _ (siblings_written key named) (siblings_laid_out key), writable_merged _ writable]
  exact answered

theorem siblings_apart (key : String) : ListsApart (siblings key) := ⟨⟨trivial, trivial⟩, ⟨trivial, trivial, trivial⟩, trivial⟩

theorem valid_document_stays_valid_sibling :
    ListsApart (siblings "kafaka") ∧ BlockRows 0 (siblings "kafaka") (siblingRows "kafaka") ∧
    LaidOut (siblingRows "kafaka") (siblingLines "kafaka") ∧ Writable (siblings "kafaka") ∧
    Severity.warning ∈ [Severity.error, .warning, .info] ∧ 1 ≤ 10 ∧
    ∃ diagnosis repaired again,
      diagnoseText {} (String.ofList (Text.joinFeeds (siblingLines "kafaka"))) = .ok diagnosis ∧ diagnosis.errors = [] ∧
      repair (String.ofList (Text.joinFeeds (siblingLines "kafaka"))) 10 = .ok repaired ∧
      readDocument repaired.text = .ok (siblings "kafka") ∧
      diagnoseText {} repaired.text = .ok again ∧ again.errors = [] := by
  have named : isWrittenKey "kafaka".toList = true := by decide
  have apart := siblings_apart "kafaka"
  have written := siblings_written "kafaka" named
  have laid := siblings_laid_out "kafaka"
  have writable := siblings_writable "kafaka" named (by decide)
  obtain ⟨diagnosis, checked, valid⟩ := siblings_valid "kafaka" named (by decide)
  have fixed : (repairWithin 10 (String.ofList (Text.joinFeeds (siblingLines "kafaka")))).fixes =
      [.sure .component "kafaka" "kafka" 4] := by decide +kernel
  obtain ⟨repaired, answered, -, kept⟩ :=
    valid_document_stays_valid _ apart 0 _ _ written laid {} (by decide) writable diagnosis checked valid 10 (by decide)
  obtain rfl : repairWithin 10 _ = repaired := Except.ok.inj ((repair_ok _ 10 (by decide)).symm.trans answered)
  rw [fixed, show valueAfter 10 [] _ = siblings "kafka" from rfl] at kept
  have distinct : Distinct (siblings "kafka") := by
    simp [siblings, Distinct, DistinctEntries, KeysApart, Entries.keys, Scalar.sameKey]
  have no_call : ¬ IsCallFix (.sure .component "kafaka" "kafka" 4) := by
    rintro ⟨kind, call⟩
    cases call
  obtain ⟨read, still⟩ := kept (List.forall_mem_singleton.mpr no_call)
  obtain ⟨again, checked_again, -, silent⟩ := still distinct
  have no_expression : ∀ name ∈ ["kafka"], name ∉ expressionKeys := by decide
  rw [distinct_merged _ distinct] at read
  exact ⟨apart, written, laid, writable, by decide, by decide, diagnosis, _, again, checked, valid, answered, read, checked_again,
    silent (List.forall_mem_singleton.mpr no_expression)⟩

theorem sibling_becomes_type :
    (∃ diagnosis, diagnoseText {} "input:\n  stdin: \x7b\x7d\noutput:\n  stdout: \x7b\x7d\n  console: 5\n" = .ok diagnosis ∧
      diagnosis.errors = []) ∧
    ∃ repaired again,
      repair "input:\n  stdin: \x7b\x7d\noutput:\n  stdout: \x7b\x7d\n  console: 5\n" defaultLimit = .ok repaired ∧
      diagnoseText {} repaired.text = .ok again ∧ again.errors ≠ [] := by
  have text : "input:\n  stdin: \x7b\x7d\noutput:\n  stdout: \x7b\x7d\n  console: 5\n" =
      String.ofList (Text.joinFeeds (siblingLines "console")) := by decide
  have repaired : (repairWithin 10 (String.ofList (Text.joinFeeds (siblingLines "console")))).text =
      String.ofList (Text.joinFeeds (siblingLines "stdout")) := by decide +kernel
  have stdin := single_writable "stdin" _ (by decide) (.inline _ _ .noEntries)
  have stdout := single_writable "stdout" _ (by decide) (.inline _ _ (.int 5 (by decide)))
  have writable := pair_writable "input" "output" _ _ (by decide) (by decide) (by decide) stdin stdout
  obtain ⟨errors, found, -⟩ := document_reports _ writable
  obtain ⟨again, answered, same⟩ := written_diagnosed {} rfl _ writable errors found
  have lost : merged (siblings "stdout") =
      .map [(.str "input", .map [(.str "stdin", .map [])]), (.str "output", .map [(.str "stdout", .int 5)])] := by rfl
  rw [text]
  refine ⟨siblings_valid "console" (by decide) (by decide), _, again, repair_default _, ?_, fun nothing => ?_⟩
  · rw [repaired, laid_out_diagnosed {} 0 _ _ _ (siblings_written "stdout" (by decide)) (siblings_laid_out "stdout"), lost]
    exact answered
  · rw [← same, nothing] at found
    obtain ⟨value, given, none⟩ := section_problems_none _ _ ((document_problems_none _).mp found).output
    obtain rfl : .map [(.str "stdout", .int 5)] = value := Option.some.inj given
    obtain ⟨entries, type, rest, ⟨typed, -⟩, fields, -⟩ := (slot_problems_none _ _ _).mp none
    obtain rfl := Value.map.inj rest
    obtain rfl : "stdout" = type := Option.some.inj (Except.ok.inj typed)
    exact absurd fields (by decide +kernel)

end PipelineLint
