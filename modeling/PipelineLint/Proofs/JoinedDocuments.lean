import Mathlib.Algebra.Ring.Nat
import PipelineLint.Proofs.LineEndings

set_option autoImplicit false

namespace PipelineLint

theorem Text.split_lines_eq_nil (text : List Char) (no_line : splitLines text = []) : text = [] := by
  fun_cases splitLines text with
  | case1 => rfl
  | case2 rest => simp [splitLines] at no_line
  | case3 c rest no_pair boundary => simp [splitLines, boundary] at no_line
  | case4 c rest no_pair inside =>
      rw [splitLines, if_neg inside] at no_line
      · cases lines : splitLines rest <;> simp [lines, consLine] at no_line
      · exact no_pair

theorem Text.split_lines_feed (text rest : List Char) :
    ∃ gap, (gap = [] ∨ gap = [[]]) ∧ splitLines (text ++ '\n' :: rest) = splitLines text ++ (gap ++ splitLines rest) := by
  fun_induction splitLines text with
  | case1 => exact ⟨[[]], .inr rfl, rfl⟩
  | case2 text ih =>
      obtain ⟨gap, short, split⟩ := ih
      exact ⟨gap, short, congrArg (List.cons []) split⟩
  | case3 c text no_pair boundary ih =>
      by_cases pair : c = '\r' ∧ text = []
      · obtain ⟨rfl, rfl⟩ := pair
        exact ⟨[], .inl rfl, rfl⟩
      · obtain ⟨gap, short, split⟩ := ih
        refine ⟨gap, short, ?_⟩
        rw [List.cons_append, splitLines, if_pos boundary, split]
        · rfl
        · rintro later rfl same
          cases text with
          | nil => exact pair ⟨rfl, rfl⟩
          | cons d text => exact no_pair text rfl (by rw [(List.cons.inj same).1])
  | case4 c text no_pair inside ih =>
      have no_return : c ≠ '\r' := by
        rintro rfl
        exact inside rfl
      rw [List.cons_append, split_lines_cons c _ no_return, if_neg inside]
      cases lines : splitLines text with
      | nil =>
          obtain rfl := split_lines_eq_nil text lines
          exact ⟨[], .inl rfl, rfl⟩
      | cons line lines =>
          obtain ⟨gap, short, split⟩ := ih
          rw [split, lines]
          exact ⟨gap, short, rfl⟩

namespace Document

def isPipelineRun (run : List (List Char)) : Bool :=
  run.any (fun line => !Text.allBlank line) && isPipeline (Text.joinFeeds run)

theorem count_runs (text : List Char) : countPipelines text = (splitRuns (Text.splitLines text)).countP isPipelineRun := by
  rw [countPipelines, segments, List.countP_map, List.countP_filter]
  refine List.countP_congr fun run _ => ?_
  simp [isPipelineRun, and_comm]

theorem split_runs_some (lines : List (List Char)) : splitRuns lines ≠ [] := by
  cases lines with
  | nil => simp [splitRuns]
  | cons line lines =>
      rw [splitRuns]
      split
      · simp
      · cases splitRuns lines <;> simp

theorem split_runs_separator (lines more : List (List Char)) (separator : List Char) (separates : isSeparator separator = true) :
    splitRuns (lines ++ separator :: more) = splitRuns lines ++ splitRuns more := by
  induction lines with
  | nil => simp [splitRuns, separates]
  | cons line lines ih =>
      rw [List.cons_append, splitRuns, splitRuns, ih]
      split
      · rfl
      · obtain ⟨run, runs, split⟩ := List.exists_cons_of_ne_nil (split_runs_some lines)
        rw [split]
        rfl

theorem split_runs_empty_line (lines : List (List Char)) :
    ∃ runs run, splitRuns lines = runs ++ [run] ∧ splitRuns (lines ++ [[]]) = runs ++ [run ++ [[]]] := by
  induction lines with
  | nil => exact ⟨[], [], rfl, rfl⟩
  | cons line lines ih =>
      obtain ⟨runs, run, here, longer⟩ := ih
      rw [List.cons_append, splitRuns, splitRuns, here, longer]
      split
      · exact ⟨[] :: runs, run, rfl, rfl⟩
      · cases runs with
        | nil => exact ⟨[], line :: run, rfl, rfl⟩
        | cons first runs => exact ⟨(line :: first) :: runs, run, rfl, rfl⟩

theorem colon_behind_blanks (text : List Char) :
    ((text ++ ['\n']).dropWhile Text.isBlank).head? = some ':' ↔ (text.dropWhile Text.isBlank).head? = some ':' := by
  induction text with
  | nil => simp [Text.isBlank]
  | cons c text ih =>
      by_cases blank : Text.isBlank c = true
      · simpa [blank] using ih
      · simp [blank]

theorem starts_section_feed (text : List Char) (word : String) (one_line : '\n' ∉ word.toList) :
    startsSection (text ++ ['\n']) word = startsSection text word := by
  unfold startsSection
  by_cases here : word.toList <+: text
  · obtain ⟨behind, same⟩ := here
    have colon := colon_behind_blanks behind
    rw [← same, List.append_assoc]
    simp only [List.drop_left, List.isPrefixOf_iff_prefix.mpr (List.prefix_append _ _), colon]
  · have nowhere : ¬word.toList <+: text ++ ['\n'] := fun longer => by
      rcases List.prefix_concat_iff.mp longer with whole | shorter
      · exact one_line (whole ▸ by simp)
      · exact here shorter
    rw [← List.isPrefixOf_iff_prefix, Bool.not_eq_true] at here nowhere
    rw [here, nowhere, Bool.false_and, Bool.false_and]

theorem has_section_feed (atStart : Bool) (text : List Char) : hasSection atStart (text ++ ['\n']) = hasSection atStart text := by
  induction text generalizing atStart with
  | nil => cases atStart <;> decide
  | cons c text ih =>
      have words : pipelineSections.any (startsSection (c :: text ++ ['\n'])) =
          pipelineSections.any (startsSection (c :: text)) := by
        simp only [pipelineSections, List.any_cons, List.any_nil, starts_section_feed (c :: text) "input" (by decide),
          starts_section_feed (c :: text) "output" (by decide), starts_section_feed (c :: text) "pipeline" (by decide)]
      rw [List.cons_append] at words ⊢
      rw [hasSection, hasSection, words, ih]

theorem join_feeds_empty_line (line : List Char) (lines : List (List Char)) :
    Text.joinFeeds (line :: lines ++ [[]]) = Text.joinFeeds (line :: lines) ++ ['\n'] := by
  induction lines generalizing line with
  | nil => simp [Text.joinFeeds_cons_cons]
  | cons next lines ih =>
      have later := ih next
      rw [List.cons_append] at later
      rw [List.cons_append, List.cons_append, Text.joinFeeds_cons_cons, Text.joinFeeds_cons_cons, later, List.append_assoc,
        List.cons_append]

theorem pipeline_run_empty_line (run : List (List Char)) : isPipelineRun (run ++ [[]]) = isPipelineRun run := by
  cases run with
  | nil => rfl
  | cons line lines =>
      have inked : (line :: lines ++ [[]]).any (fun line => !Text.allBlank line) =
          (line :: lines).any (fun line => !Text.allBlank line) := by
        simp [List.any_append, Text.allBlank]
      rw [isPipelineRun, isPipelineRun, inked, join_feeds_empty_line, isPipeline, isPipeline, has_section_feed]

theorem count_gap (lines gap : List (List Char)) (short : gap = [] ∨ gap = [[]]) :
    (splitRuns (lines ++ gap)).countP isPipelineRun = (splitRuns lines).countP isPipelineRun := by
  rcases short with rfl | rfl
  · rw [List.append_nil]
  · obtain ⟨runs, run, here, longer⟩ := split_runs_empty_line lines
    rw [here, longer, List.countP_append, List.countP_append, List.countP_singleton, List.countP_singleton,
      pipeline_run_empty_line]

-- The line that separates two documents, with what ends the line in front of it.
def separation : List Char := ['\n', '-', '-', '-', '\n']

theorem count_separated (text rest : List Char) :
    countPipelines (text ++ (separation ++ rest)) = countPipelines text + countPipelines rest := by
  obtain ⟨gap, short, lines⟩ := Text.split_lines_feed text ('-' :: '-' :: '-' :: '\n' :: rest)
  have dashes : Text.splitLines ('-' :: '-' :: '-' :: '\n' :: rest) = ['-', '-', '-'] :: Text.splitLines rest := rfl
  rw [count_runs, count_runs, count_runs, separation]
  simp only [List.cons_append, List.nil_append]
  rw [lines, dashes, ← List.append_assoc, split_runs_separator _ _ _ rfl, List.countP_append, count_gap _ gap short]

theorem count_joined (texts : List (List Char)) :
    countPipelines (separation.intercalate texts) = (texts.map countPipelines).sum := by
  induction texts with
  | nil => rfl
  | cons text texts ih =>
      cases texts with
      | nil => simp [List.intercalate]
      | cons next texts =>
          have joined : separation.intercalate (text :: next :: texts) =
              text ++ (separation ++ separation.intercalate (next :: texts)) := by
            simp [List.intercalate]
          rw [joined, count_separated, ih]
          rfl

end Document

theorem pipeline_text_none_iff (text : List Char) : pipelineText? text = none ↔ 1 < Document.countPipelines text := by
  rw [Document.countPipelines, List.countP_eq_length_filter, pipelineText?]
  rcases (Document.segments text).filter Document.isPipeline with - | ⟨first, - | ⟨second, others⟩⟩ <;> simp

/-- The documents with lines of dashes between them. -/
def joinDocuments (documents : List String) : String :=
  "\n---\n".intercalate documents

/-- The number of pipelines in all documents. -/
def pipelineCount (documents : List String) : Nat :=
  (documents.map fun document => Document.countPipelines document.toList).sum

theorem documents_counted (documents : List String) :
    Document.countPipelines (joinDocuments documents).toList = pipelineCount documents ∧
      (pipelineText? (joinDocuments documents).toList = none ↔ 1 < pipelineCount documents) ∧
      ∀ options, 1 < pipelineCount documents →
        diagnoseText options (joinDocuments documents) = .ok { errors := [severalDocuments] } := by
  have count : Document.countPipelines (joinDocuments documents).toList = pipelineCount documents := by
    rw [joinDocuments, String.toList_intercalate]
    exact (Document.count_joined _).trans (by rw [List.map_map]; rfl)
  have several := pipeline_text_none_iff (joinDocuments documents).toList
  rw [count] at several
  refine ⟨count, several, fun options more => ?_⟩
  rw [diagnoseText, several.mpr more]

def unevenDocuments : List String :=
  ["input:\n  stdin:\r", "", "a: 1\n--- \noutput:\n\n", "note: input:"]

theorem documents_counted_uneven : 1 < pipelineCount unevenDocuments ∧
    diagnoseText {} (joinDocuments unevenDocuments) = .ok { errors := [severalDocuments] } :=
  ⟨by decide, (documents_counted unevenDocuments).2.2 {} (by decide)⟩

end PipelineLint
