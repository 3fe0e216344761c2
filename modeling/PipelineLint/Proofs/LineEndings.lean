import PipelineLint.Proofs.JsonSpacing
import PipelineLint.Validation.Pipeline

set_option autoImplicit false

namespace PipelineLint

/-- The text with a return in front of each line feed. -/
def Text.withReturns (text : List Char) : List Char :=
  text.flatMap fun c => if c = '\n' then ['\r', '\n'] else [c]

theorem Text.with_returns_cons (c : Char) (rest : List Char) :
    withReturns (c :: rest) = (if c = '\n' then ['\r', '\n'] else [c]) ++ withReturns rest := by
  rw [withReturns, List.flatMap_cons]
  rfl

theorem Text.split_lines_cons (c : Char) (rest : List Char) (no_return : c ≠ '\r') :
    splitLines (c :: rest) = if isLineBreak c then [] :: splitLines rest else consLine c (splitLines rest) := by
  rw [splitLines]
  rintro _ rfl
  exact absurd rfl no_return

theorem Text.split_with_returns (text : List Char) (no_return : '\r' ∉ text) :
    splitLines (withReturns text) = splitLines text := by
  induction text with
  | nil => rfl
  | cons c rest ih =>
      simp only [List.mem_cons, not_or] at no_return
      have others := ih no_return.2
      rw [with_returns_cons]
      by_cases feed : c = '\n'
      · subst feed
        rw [if_pos rfl, split_lines_cons '\n' rest (by decide), if_pos (by decide), List.cons_append, List.singleton_append,
          splitLines, others]
      · rw [if_neg feed, List.singleton_append, split_lines_cons c rest (Ne.symm no_return.1),
          split_lines_cons c _ (Ne.symm no_return.1), others]

theorem Json.with_returns_respaced (text : List Char) : Respaced text (Text.withReturns text) := by
  induction text with
  | nil => exact .nil
  | cons c text ih =>
      rw [Text.with_returns_cons]
      by_cases feed : c = '\n'
      · subst feed
        exact .feed '\r' ['\n'] text _ ⟨rfl, by decide⟩ (by decide) ih
      · rw [if_neg feed]
        exact .cons c text _ ih

namespace Document

theorem opens_flow_respaced (text other : List Char) (same : Json.Respaced text other) :
    other.head?.any opensFlow = text.head?.any opensFlow := by
  cases same with
  | nil => rfl
  | cons c text other behind => rfl
  | feed first gap text other breaks spaces behind =>
      have control := breaks.control
      have no_list : first ≠ '[' := by
        rintro rfl
        exact absurd control (by decide)
      have no_mapping : first ≠ '\x7b' := by
        rintro rfl
        exact absurd control (by decide)
      simp [opensFlow, no_list, no_mapping]

theorem read_text_respaced (text other : List Char) (same : Json.Respaced (Text.trim text) (Text.trim other))
    (lines : readLines (linesOf other) = readLines (linesOf text)) : readText other = readText text := by
  unfold readText
  simp only [lines, opens_flow_respaced _ _ same, Json.read_respaced none _ _ same]

theorem read_with_returns (text : List Char) (no_return : '\r' ∉ text) :
    readText (Text.withReturns text) = readText text := by
  refine read_text_respaced text _ (Json.trim_respaced _ _ (Json.with_returns_respaced text)) ?_
  rw [linesOf, linesOf, Text.split_with_returns text no_return]

theorem segments_with_returns (text : List Char) (no_return : '\r' ∉ text) :
    segments (Text.withReturns text) = segments text := by
  rw [segments, segments, Text.split_with_returns text no_return]

end Document

theorem pipeline_text_with_returns (text : List Char) (no_return : '\r' ∉ text) :
    pipelineText? (Text.withReturns text) = pipelineText? text ∨
      pipelineText? text = some text ∧ pipelineText? (Text.withReturns text) = some (Text.withReturns text) := by
  unfold pipelineText?
  rw [Document.segments_with_returns text no_return]
  simp only
  split
  · exact .inr ⟨rfl, rfl⟩
  · split
    · exact .inl rfl
    · exact .inr ⟨rfl, rfl⟩
  · exact .inl rfl

/-- The document with a return in front of each line feed. -/
def withReturns (text : String) : String :=
  String.ofList (Text.withReturns text.toList)

theorem line_endings_ignored (text : String) (no_return : '\r' ∉ text.toList) :
    readDocument (withReturns text) = readDocument text ∧
      ∀ options, diagnoseText options (withReturns text) = diagnoseText options text := by
  have read := Document.read_with_returns text.toList no_return
  have source := pipeline_text_with_returns text.toList no_return
  simp only [readDocument, diagnoseText, withReturns, String.toList_ofList]
  refine ⟨read, fun options => ?_⟩
  rcases source with same | ⟨here, there⟩
  · rw [same]
  · rw [here, there]
    simp only [read]

def brokenList : String := "[\n  1,\n  on\n]\ninput:\n  stdin: \x7b\x7d\n"

theorem line_endings_ignored_broken_list : '\r' ∉ brokenList.toList ∧
    readDocument (withReturns brokenList) = readDocument brokenList ∧
      ∀ options, diagnoseText options (withReturns brokenList) = diagnoseText options brokenList :=
  ⟨by decide, line_endings_ignored brokenList (by decide)⟩

end PipelineLint
