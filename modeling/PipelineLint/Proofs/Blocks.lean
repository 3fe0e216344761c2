import PipelineLint.Document.Block

set_option autoImplicit false

namespace PipelineLint.Document

theorem read_text_block (text : List Char) (block : (Text.trim text).head?.any opensFlow = false) :
    readText text = readLines (linesOf text) := by
  unfold readText
  exact if_neg (by simp [block])

theorem read_lines_fault (number : Nat) (line : Line) (lines rest : List Line) (fault : Fault)
    (first : settle 1 lines = ⟨number, line :: rest⟩) (failed : readBlock number line rest = .error fault) :
    readLines lines = .error fault := by
  unfold readLines
  rw [first]
  simp only [failed]

theorem read_more_end (value : Value) (cursor : Cursor) (last : Nat)
    (ends : settle cursor.number cursor.lines = ⟨last, []⟩) : readMore value cursor = .ok value := by
  rw [readMore]
  split
  · rfl
  · rename_i found
    rw [ends] at found
    cases found

theorem read_lines_value (number last : Nat) (line : Line) (lines rest : List Line) (value : Value) (place : After rest)
    (first : settle 1 lines = ⟨number, line :: rest⟩) (read : readBlock number line rest = .ok (value, place))
    (ends : settle place.1.number place.1.lines = ⟨last, []⟩) : readLines lines = .ok value := by
  unfold readLines
  rw [first]
  simp only [read]
  exact read_more_end value place.1 last ends

theorem read_block_mapping (number : Nat) (line : Line) (rest : List Line) (plain : line.afterDash? = none) :
    readBlock number line rest = readMapping line.indent [] number line rest := by
  rw [readBlock]
  split
  · rename_i found
    rw [plain] at found
    cases found
  · rfl

theorem read_block_sequence (number : Nat) (line item : Line) (rest : List Line) (behind : line.afterDash? = some item) :
    readBlock number line rest = readSequence line.indent [] line.indent item number rest := by
  rw [readBlock]
  split
  · rename_i found
    rw [behind] at found
    cases found
    rfl
  · rename_i found
    rw [behind] at found
    cases found

theorem read_mapping_value_fault (indent : Nat) (entries : Entries) (number : Nat) (line : Line) (rest : List Line)
    (head : EntryHead) (key : String) (fault : Fault) (entry : entryHead? line.content = some head)
    (named : head.key.read = .ok key) (failed : readValue head.value line.indent ⟨number + 1, rest⟩ = .error fault) :
    readMapping indent entries number line rest = .error fault := by
  rw [readMapping, entry]
  simp only [named, failed]

theorem read_value_scalar (text : List Char) (parent : Nat) (cursor : Cursor)
    (inked : Text.trim (stripComment text) ≠ []) :
    readValue text parent cursor = readScalar (Text.trim (stripComment text)) parent cursor := by
  rw [readValue]
  exact if_neg inked

end PipelineLint.Document
