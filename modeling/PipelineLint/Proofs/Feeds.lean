import PipelineLint.Proofs.DocumentCalls
import PipelineLint.Proofs.OutlineKeys

set_option autoImplicit false

namespace PipelineLint.Repair

structure AreLines (lines : Lines) : Prop where
  some_line : lines ≠ []
  no_feed : ∀ line ∈ lines, '\n' ∉ line

theorem split_feeds_lines (text : List Char) : AreLines (Text.splitFeeds text) := by
  refine ⟨Text.splitFeeds_ne_nil text, ?_⟩
  induction text with
  | nil => simp [Text.splitFeeds]
  | cons c rest ih =>
      by_cases feed : c = '\n'
      · simp only [Text.splitFeeds, if_pos feed, List.mem_cons, forall_eq_or_imp]
        exact ⟨by simp, ih⟩
      · simp only [Text.splitFeeds, if_neg feed]
        cases split : Text.splitFeeds rest with
        | nil => exact absurd split (Text.splitFeeds_ne_nil rest)
        | cons line others =>
            rw [split] at ih
            intro other member
            rcases List.mem_cons.mp member with rfl | member
            · simp only [List.mem_cons, not_or]
              exact ⟨fun same => feed same.symm, ih line List.mem_cons_self⟩
            · exact ih other (List.mem_cons_of_mem _ member)

theorem split_feeds_line (line rest : List Char) (no_feed : '\n' ∉ line) :
    Text.splitFeeds (line ++ '\n' :: rest) = line :: Text.splitFeeds rest := by
  induction line with
  | nil => simp [Text.splitFeeds]
  | cons c line ih =>
      have other : c ≠ '\n' := fun same => no_feed (by simp [same])
      rw [List.cons_append, Text.splitFeeds, if_neg other, ih fun member => no_feed (List.mem_cons_of_mem _ member)]
      rfl

theorem split_feeds_last (line : List Char) (no_feed : '\n' ∉ line) : Text.splitFeeds line = [line] := by
  induction line with
  | nil => rfl
  | cons c line ih =>
      have other : c ≠ '\n' := fun same => no_feed (by simp [same])
      rw [Text.splitFeeds, if_neg other, ih fun member => no_feed (List.mem_cons_of_mem _ member)]
      rfl

theorem split_join_feeds (lines : Lines) (are : AreLines lines) : Text.splitFeeds (Text.joinFeeds lines) = lines := by
  obtain ⟨some_line, no_feed⟩ := are
  induction lines with
  | nil => contradiction
  | cons line rest ih =>
      have here := no_feed line List.mem_cons_self
      cases rest with
      | nil =>
          rw [Text.joinFeeds_singleton, split_feeds_last line here]
      | cons next rest =>
          rw [Text.joinFeeds_cons_cons, split_feeds_line line _ here,
            ih (by simp) fun other member => no_feed other (List.mem_cons_of_mem _ member)]

inductive Renamed (lines : Lines) : Lines → Prop where
  | same : Renamed lines lines
  | name (next : Lines) (index start stop : Nat) (name : String) (before : Renamed lines next)
      (letters : isKeyName name.toList = true) : Renamed lines (next.modify index (replaceRange start stop name))

theorem renamed_trans (lines next last : Lines) (first : Renamed lines next) (others : Renamed next last) :
    Renamed lines last := by
  induction others with
  | same => exact first
  | name later index start stop name _ letters ih => exact .name later index start stop name ih letters

theorem renamed_length (lines last : Lines) (renamed : Renamed lines last) : last.length = lines.length := by
  induction renamed with
  | same => rfl
  | name next index start stop name _ _ ih => rw [List.length_modify, ih]

theorem key_name_without (c : Char) (no_start : Text.isNameStart c = false) (no_letter : isKeyCharacter c = false)
    (name : List Char) (key : isKeyName name = true) : c ∉ name := by
  obtain ⟨first, rest, rfl, starts, letters⟩ := key_name_cases name key
  intro member
  rcases List.mem_cons.mp member with rfl | member
  · rw [no_start] at starts
    cases starts
  · have letter := letters c member
    rw [no_letter] at letter
    cases letter

theorem modify_without (c : Char) (lines : Lines) (index start stop : Nat) (name : String)
    (without : ∀ line ∈ lines, c ∉ line) (letters : c ∉ name.toList) :
    ∀ line ∈ lines.modify index (replaceRange start stop name), c ∉ line := by
  induction lines generalizing index with
  | nil => simp
  | cons line rest ih =>
      obtain ⟨here, others⟩ := List.forall_mem_cons.mp without
      cases index with
      | zero =>
          rw [List.modify_zero_cons]
          refine List.forall_mem_cons.mpr ⟨?_, others⟩
          unfold replaceRange
          simp only [List.mem_append, not_or]
          exact ⟨⟨fun member => here (List.mem_of_mem_take member), letters⟩,
            fun member => here (List.mem_of_mem_drop member)⟩
      | succ index =>
          rw [List.modify_succ_cons]
          exact List.forall_mem_cons.mpr ⟨here, ih index others⟩

theorem renamed_without (c : Char) (no_start : Text.isNameStart c = false) (no_letter : isKeyCharacter c = false)
    (lines last : Lines) (renamed : Renamed lines last) (without : ∀ line ∈ lines, c ∉ line) : ∀ line ∈ last, c ∉ line := by
  induction renamed with
  | same => exact without
  | name next index start stop name _ letters ih =>
      exact modify_without c next index start stop name ih (key_name_without c no_start no_letter _ letters)

theorem renamed_lines (lines last : Lines) (renamed : Renamed lines last) (are : AreLines lines) : AreLines last := by
  refine ⟨fun empty => are.some_line ?_, renamed_without '\n' (by decide) (by decide) lines last renamed are.no_feed⟩
  have lengths := renamed_length lines last renamed
  rw [empty] at lengths
  exact List.length_eq_zero_iff.mp lengths.symm

theorem fix_outline_renamed (lines : Lines) : Renamed lines (fixOutline lines).1 := by
  rcases fix_outline_cases lines with ⟨idle, -⟩ | ⟨site, -, -, -, renamed, -⟩
  · rw [idle]
    exact .same
  · rw [renamed]
    exact .name lines _ _ _ _ .same (by decide)

theorem rename_keys_renamed (found : List (KeySite × String)) (lines : Lines)
    (names : ∀ entry ∈ found, isKeyName entry.2.toList = true) :
    Renamed lines (found.foldl (fun lines (site, name) => renameKey lines site name) lines) := by
  induction found generalizing lines with
  | nil => exact .same
  | cons entry found ih =>
      obtain ⟨site, name⟩ := entry
      obtain ⟨here, others⟩ := List.forall_mem_cons.mp names
      exact renamed_trans lines _ _ (.name lines _ _ _ name .same here) (ih _ others)

theorem misnamed_key_name (lines : Lines) : ∀ entry ∈ misnamedComponents lines, isKeyName entry.2.toList = true := by
  rw [misnamed_components]
  intro entry member
  obtain ⟨site, -, found⟩ := List.mem_filterMap.mp member
  obtain ⟨target, replaced, rfl⟩ := Option.map_eq_some_iff.mp found
  exact replacement_key_name site.key target site.above replaced

theorem fix_components_renamed (lines : Lines) : Renamed lines (fixComponents lines).1 :=
  rename_keys_renamed _ lines (misnamed_key_name lines)

theorem replaced_calls_cons (kind : CallKind) (call : CallPlace) (calls : List CallPlace) :
    replacedCalls kind (call :: calls) =
      match Catalog.callReplacement? kind call.name with
      | some target => (call, target) :: replacedCalls kind calls
      | none => replacedCalls kind calls := by
  rw [replacedCalls, List.filterMap_cons]
  cases Catalog.callReplacement? kind call.name <;> rfl

theorem rename_calls_renamed (kind : CallKind) (calls : List CallPlace) (lines : Lines) :
    Renamed lines (renameCalls (replacedCalls kind calls) lines) := by
  induction calls with
  | nil => exact .same
  | cons call calls ih =>
      rw [replaced_calls_cons]
      cases replaced : Catalog.callReplacement? kind call.name with
      | none => exact ih
      | some target =>
          have callable := replacement_callable kind call.name target replaced
          exact .name _ _ _ _ target ih (identifier_key_name _ callable.1)

theorem fix_calls_renamed (kind : CallKind) (lines : Lines) : Renamed lines (fixCalls kind lines).1 :=
  rename_calls_renamed kind _ lines

end PipelineLint.Repair
