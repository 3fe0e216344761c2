import PipelineLint.Proofs.Scanner
import PipelineLint.Proofs.WrittenLines

set_option autoImplicit false

namespace PipelineLint

namespace Document

def Among (lines : List Line) (cursor : Cursor) : Prop :=
  ∃ front, front ++ cursor.lines = lines ∧ cursor.number = front.length + 1

def Says (lines : List Line) (number : Nat) : Prop :=
  ∃ line rest, Among lines ⟨number, line :: rest⟩ ∧ line.isSignificant = true

def Halts (lines : List Line) (cursor : Cursor) : Prop :=
  Among lines cursor ∧ (Says lines cursor.number ∨ cursor.number = lines.length + 1)

theorem among_next (lines : List Line) (number : Nat) (line : Line) (rest : List Line)
    (place : Among lines ⟨number, line :: rest⟩) : Among lines ⟨number + 1, rest⟩ := by
  obtain ⟨front, split, count⟩ := place
  refine ⟨front ++ [line], by simpa using split, ?_⟩
  simp only [List.length_append, List.length_singleton] at count ⊢
  omega

theorem among_settle (lines : List Line) (number : Nat) (left : List Line) (place : Among lines ⟨number, left⟩) :
    Halts lines (settle number left) := by
  induction left generalizing number with
  | nil =>
      obtain ⟨front, split, count⟩ := place
      refine ⟨⟨front, split, count⟩, .inr ?_⟩
      rw [List.append_nil] at split
      rw [← split]
      exact count
  | cons line rest ih =>
      rw [settle]
      split
      · rename_i significant
        exact ⟨place, .inl ⟨line, rest, place, significant⟩⟩
      · exact ih (number + 1) (among_next lines number line rest place)

theorem halts_in_front (lines : List Line) (number : Nat) (line : Line) (rest : List Line)
    (place : Halts lines ⟨number, line :: rest⟩) : Says lines number := by
  obtain ⟨⟨front, split, count⟩, speaks | last⟩ := place
  · exact speaks
  · have length := congrArg List.length split
    simp only [List.length_append, List.length_cons] at length count last
    omega

theorem among_move_to (lines : List Line) (cursor : Cursor) (rest : List Line) (place : Among lines cursor)
    (suffix : rest <:+ cursor.lines) : Among lines (cursor.moveTo rest) := by
  obtain ⟨front, split, count⟩ := place
  obtain ⟨taken, whole⟩ := suffix
  refine ⟨front ++ taken, ?_, ?_⟩
  · rw [← split, ← whole, List.append_assoc]
    rfl
  · simp only [Cursor.moveTo, ← whole, List.length_append]
    omega

def PointsAt (lines : List Line) (fault : Fault) : Prop :=
  ∀ complaint number, fault = .malformed complaint (some number) → Says lines number

-- A reading that ends at a place of some kind, or with a fault that tells a line which says something.
def Told (lines : List Line) (ends : Cursor → Prop) : Reading → Prop
  | .ok found => ends found.2
  | .error fault => PointsAt lines fault

theorem points_at_line (lines : List Line) (complaint : Complaint) (number : Nat) (speaks : Says lines number) :
    PointsAt lines (.malformed complaint (some number)) := by
  rintro _ _ ⟨⟩
  exact speaks

theorem points_at_moved (lines : List Line) (fault : Fault) (number : Nat) (speaks : Says lines number) :
    PointsAt lines (fault.atLine number) := by
  cases fault with
  | malformed complaint line => exact points_at_line lines complaint number speaks
  | badEscape => rintro _ _ ⟨⟩
  | integerTooLong => rintro _ _ ⟨⟩
  | collectionAsKey => rintro _ _ ⟨⟩

theorem key_fault (lines : List Line) (key : KeyText) (fault : Fault) (failed : key.read = .error fault) :
    PointsAt lines fault := by
  rintro complaint number rfl
  cases key with
  | plain text => cases failed
  | single inside => cases failed
  | double inside =>
      simp only [KeyText.read] at failed
      split at failed <;> cases failed

theorem plain_fault (lines : List Line) (text : List Char) (fault : Fault) (failed : coercePlain text = .error fault) :
    PointsAt lines fault := by
  rintro complaint number rfl
  simp only [coercePlain] at failed
  repeat' split at failed
  all_goals cases failed

theorem told_mono (lines : List Line) (ends others : Cursor → Prop) (reading : Reading) (weaker : ∀ cursor, ends cursor → others cursor)
    (told : Told lines ends reading) : Told lines others reading := by
  cases reading with
  | error fault => exact told
  | ok found => exact weaker found.2 told

theorem told_bind (lines : List Line) (ends others : Cursor → Prop) (reading : Reading) (next : Value × Cursor → Reading)
    (told : Told lines ends reading)
    (onward : ∀ value place, reading = .ok (value, place) → ends place → Told lines others (next (value, place))) :
    Told lines others (reading.bind next) := by
  cases reading with
  | error fault => exact told
  | ok found => exact onward found.1 found.2 rfl told

theorem told_gathered (lines : List Line) (piece : Line → List Char) (finish : List Char → List Char) (text : List Char)
    (cursor : Cursor) (place : Among lines cursor) (here : Says lines (cursor.number - 1)) :
    Told lines (Among lines) (placed (readGathered piece finish text cursor)) := by
  rw [gathered_reading]
  cases readInline (finish (gather piece text cursor.lines).1) with
  | ok value => exact among_move_to lines cursor _ place (gather_suffix piece text cursor.lines)
  | error fault => exact points_at_moved lines fault (cursor.number - 1) here

theorem told_scalar (lines : List Line) (text : List Char) (parent : Nat) (cursor : Cursor) (place : Among lines cursor)
    (here : Says lines (cursor.number - 1)) : Told lines (Among lines) (placed (readScalar text parent cursor)) := by
  rw [scalar_reading]
  cases blockHeader? text with
  | some header => exact among_move_to lines cursor _ place (takeBody_suffix parent _ cursor.lines)
  | none =>
      simp only
      split
      · exact told_gathered lines _ _ text cursor place here
      · split
        · exact told_gathered lines _ _ text cursor place here
        · cases read : coercePlain ([' '].intercalate (text :: (takeContinuation parent cursor.lines).1)) with
          | ok value => exact among_move_to lines cursor _ place (takeContinuation_suffix parent cursor.lines)
          | error fault => exact plain_fault lines _ fault read

theorem told_behind (lines : List Line) (ends : Cursor → Prop) (cursor : Cursor) (behind : Cursor → Reading)
    (place : Among lines cursor)
    (at_end : ∀ number, Halts lines ⟨number, []⟩ → Told lines ends (behind ⟨number, []⟩))
    (at_line : ∀ number line rest, Halts lines ⟨number, line :: rest⟩ → Says lines number → Among lines ⟨number + 1, rest⟩ →
      weightOf (line :: rest) ≤ weightOf cursor.lines → Told lines ends (behind ⟨number, line :: rest⟩)) :
    Told lines ends (behind (settle cursor.number cursor.lines)) := by
  have halts := among_settle lines cursor.number cursor.lines place
  have lighter := weightOf_suffix (settle_suffix cursor.number cursor.lines)
  cases settled : settle cursor.number cursor.lines with
  | mk number left =>
      rw [settled] at halts lighter
      cases left with
      | nil => exact at_end number halts
      | cons line rest =>
          exact at_line number line rest halts (halts_in_front lines number line rest halts)
            (among_next lines number line rest halts.1) lighter

-- The line that a reader is given may be the rest of a line of the document behind a dash: its number is what matters, and that
-- the line with this number says something.
mutual

theorem told_block (lines : List Line) (number : Nat) (line : Line) (rest : List Line) (here : Says lines number)
    (below : Among lines ⟨number + 1, rest⟩) : Told lines (Halts lines) (blockReading number line rest) := by
  rw [block_reading]
  cases behind : line.afterDash? with
  | none => exact told_mapping lines line.indent [] number line rest here below
  | some item =>
      have lighter := weight_afterDash? behind
      exact told_sequence lines line.indent [] line.indent item number rest here below
termination_by 4 * weightOf (line :: rest) + 1
decreasing_by
  all_goals simp only [weightOf_cons]
  all_goals omega

theorem told_mapping (lines : List Line) (indent : Nat) (entries : Entries) (number : Nat) (line : Line) (rest : List Line)
    (here : Says lines number) (below : Among lines ⟨number + 1, rest⟩) :
    Told lines (Halts lines) (mappingReading indent entries number line rest) := by
  have positive := weight_pos line
  rw [mapping_reading]
  cases entryHead? line.content with
  | none => exact points_at_line lines _ number here
  | some head =>
      simp only
      cases named : head.key.read with
      | error fault => exact key_fault lines head.key fault named
      | ok key =>
          have value := told_value lines head.value line.indent ⟨number + 1, rest⟩ below here
          refine told_bind lines _ _ _ _ value fun value place found among => ?_
          have left := weightOf_suffix (placed_suffix _ _ _ found)
          refine told_behind lines _ place (mappingBehind indent _) among (fun _ halts => halts) ?_
          intro nextNumber next more halts speaks onward lighter
          simp only [mappingBehind]
          split
          · exact halts
          · split
            · split
              · exact halts
              · exact points_at_line lines _ nextNumber speaks
            · exact told_mapping lines indent _ nextNumber next more speaks onward
termination_by 4 * weightOf (line :: rest)
decreasing_by
  all_goals simp only [weightOf_cons] at *
  all_goals omega

theorem told_sequence (lines : List Line) (indent : Nat) (items : List Value) (dash : Nat) (item : Line) (number : Nat)
    (rest : List Line) (here : Says lines number) (below : Among lines ⟨number + 1, rest⟩) :
    Told lines (Halts lines) (sequenceReading indent items dash item number rest) := by
  have positive := weight_pos item
  rw [sequence_reading]
  refine told_bind lines _ _ _ _ (told_item lines dash item number rest here below) fun value place found among => ?_
  have left := weightOf_suffix (placed_suffix _ _ _ found)
  refine told_behind lines _ place (sequenceBehind indent _) among (fun _ halts => halts) ?_
  intro nextNumber next more halts speaks onward lighter
  simp only [sequenceBehind]
  split
  · exact halts
  · cases behind : next.afterDash? with
    | none =>
        simp only
        split
        · exact halts
        · exact points_at_line lines _ nextNumber speaks
    | some nextItem =>
        have shorter := weight_afterDash? behind
        exact told_sequence lines indent _ next.indent nextItem nextNumber more speaks onward
termination_by 4 * weightOf (item :: rest) + 3
decreasing_by
  all_goals simp only [weightOf_cons] at *
  all_goals omega

theorem told_item (lines : List Line) (dash : Nat) (item : Line) (number : Nat) (rest : List Line) (here : Says lines number)
    (below : Among lines ⟨number + 1, rest⟩) : Told lines (Among lines) (itemReading dash item number rest) := by
  have positive := weight_pos item
  rw [item_reading]
  split
  · refine told_behind lines _ ⟨number + 1, rest⟩ (itemBelow dash) below (fun _ halts => halts.1) ?_
    intro nextNumber next more halts speaks onward lighter
    simp only [itemBelow]
    split
    · exact told_mono lines _ _ _ (fun _ => And.left) (told_block lines nextNumber next more speaks onward)
    · exact halts.1
  · split
    · exact told_mono lines _ _ _ (fun _ => And.left) (told_block lines number item rest here below)
    · exact told_value lines item.body dash ⟨number + 1, rest⟩ below here
termination_by 4 * weightOf (item :: rest) + 2
decreasing_by
  all_goals simp only [weightOf_cons] at *
  all_goals omega

theorem told_value (lines : List Line) (text : List Char) (parent : Nat) (cursor : Cursor) (place : Among lines cursor)
    (here : Says lines (cursor.number - 1)) : Told lines (Among lines) (valueReading text parent cursor) := by
  rw [value_reading]
  split
  · refine told_behind lines _ cursor (valueBelow parent) place (fun _ halts => halts.1) ?_
    intro nextNumber next more halts speaks onward lighter
    simp only [valueBelow]
    split
    · exact told_mono lines _ _ _ (fun _ => And.left) (told_block lines nextNumber next more speaks onward)
    · split
      · cases behind : next.afterDash? with
        | none => exact halts.1
        | some item =>
            have shorter := weight_afterDash? behind
            exact told_mono lines _ _ _ (fun _ => And.left)
              (told_sequence lines next.indent [] next.indent item nextNumber more speaks onward)
      · exact halts.1
  · exact told_scalar lines _ parent cursor place here
termination_by 4 * weightOf cursor.lines + 2
decreasing_by
  all_goals simp only [weightOf_cons] at *
  all_goals omega

end

def PointsAtOrBehind (lines : List Line) (fault : Fault) : Prop :=
  PointsAt lines fault ∨ fault = .malformed .afterDocument (some (lines.length + 1))

theorem told_next (lines : List Line) (cursor : Cursor) (place : Among lines cursor) (number : Nat) (line : Line) (rest : List Line)
    (settled : settle cursor.number cursor.lines = ⟨number, line :: rest⟩) :
    Told lines (Halts lines) (blockReading number line rest) := by
  have halts := among_settle lines cursor.number cursor.lines place
  rw [settled] at halts
  exact told_block lines number line rest (halts_in_front lines number line rest halts) (among_next lines number line rest halts.1)

theorem more_fault (lines : List Line) (value : Value) (cursor : Cursor) (place : Among lines cursor) (fault : Fault)
    (failed : readMore value cursor = .error fault) : PointsAtOrBehind lines fault := by
  have lighter := weightOf_suffix (settle_suffix cursor.number cursor.lines)
  rw [more_reading] at failed
  cases settled : settle cursor.number cursor.lines with
  | mk number left =>
      rw [settled] at failed lighter
      cases left with
      | nil => cases failed
      | cons line rest =>
          have told := told_next lines cursor place number line rest settled
          simp only at failed
          cases read : blockReading number line rest with
          | error other =>
              rw [read] at told failed
              cases failed
              exact .inl told
          | ok found =>
              have left := weightOf_suffix (placed_suffix _ _ _ read)
              have positive := weight_pos line
              rw [read] at told failed
              simp only [Except.bind] at failed
              cases joins : joined? value found.1 with
              | some whole =>
                  rw [joins] at failed
                  exact more_fault lines whole found.2 told.1 fault failed
              | none =>
                  rw [joins] at failed
                  cases failed
                  rcases told.2 with at_line | last
                  · exact .inl (points_at_line lines _ _ at_line)
                  · exact .inr (by rw [last])
termination_by weightOf cursor.lines
decreasing_by
  simp only [weightOf_cons] at *
  omega

theorem lines_fault (lines : List Line) (fault : Fault) (failed : readLines lines = .error fault) :
    PointsAtOrBehind lines fault := by
  rw [lines_reading] at failed
  cases settled : settle 1 lines with
  | mk number left =>
      rw [settled] at failed
      cases left with
      | nil => cases failed
      | cons line rest =>
          have told := told_next lines ⟨1, lines⟩ ⟨[], rfl, rfl⟩ number line rest settled
          simp only at failed
          cases read : blockReading number line rest with
          | error other =>
              rw [read] at told failed
              cases failed
              exact .inl told
          | ok found =>
              rw [read] at told failed
              exact more_fault lines found.1 found.2 told.1 fault failed

theorem text_fault (text : List Char) (complaint : Complaint) (number : Nat)
    (failed : readText text = .error (.malformed complaint (some number))) :
    readLines (linesOf text) = .error (.malformed complaint (some number)) := by
  unfold readText at failed
  simp only at failed
  split at failed
  · split at failed
    · cases failed
    · cases failed
    · exact failed
  · exact failed

-- A line of a text, counted from one, that is neither blank nor a comment.
def SaysSomething (text : List Char) (number : Nat) : Prop :=
  1 ≤ number ∧ ∃ row, (Text.splitLines text)[number - 1]? = some row ∧ isSilent row = false

theorem says_something (text : List Char) (number : Nat) (speaks : Says (linesOf text) number) : SaysSomething text number := by
  obtain ⟨line, rest, ⟨front, split, count⟩, significant⟩ := speaks
  simp only at split count
  have here : (linesOf text)[number - 1]? = some line := by
    rw [← split, count]
    simp
  rw [linesOf, List.getElem?_map] at here
  obtain ⟨row, found, rfl⟩ := Option.map_eq_some_iff.mp here
  refine ⟨by omega, row, found, ?_⟩
  cases silent : isSilent row with
  | false => rfl
  | true =>
      rw [silent_insignificant row silent] at significant
      cases significant

def faultOf : Except Fault Value → Option Fault
  | .error fault => some fault
  | .ok _ => none

theorem scanned_fault (fuel : Nat) (text : List Char) (fault : Fault)
    (block : (Text.trim text).head?.any opensFlow = false) (enough : 4 * weightOf (linesOf text) + 2 < fuel)
    (found : (Scanner.scanDocument fuel (linesOf text)).bind faultOf = some fault) : readText text = .error fault := by
  rw [Scanner.document_scanned fuel (linesOf text) enough, Option.bind_some] at found
  rw [read_text_block text block]
  cases read : readLines (linesOf text) with
  | error other =>
      rw [read] at found
      exact congrArg Except.error (Option.some.inj found)
  | ok value =>
      rw [read] at found
      cases found

end Document

theorem complaint_line_says_iff (text : String) (complaint : Document.Complaint) (number : Nat)
    (failed : readDocument text = .error (.malformed complaint (some number))) :
    Document.SaysSomething text.toList number ↔
      ¬ (complaint = .afterDocument ∧ number = (Text.splitLines text.toList).length + 1) := by
  constructor
  · rintro ⟨-, row, found, -⟩ ⟨-, rfl⟩
    simp at found
  · intro inside
    have told := Document.lines_fault _ _ (Document.text_fault text.toList complaint number failed)
    rcases told with points | behind
    · exact Document.says_something text.toList number (points complaint number rfl)
    · simp only [Document.Fault.malformed.injEq, Option.some.injEq, Document.linesOf, List.length_map] at behind
      exact absurd behind inside

theorem complaint_line_says_iff_stray_item :
    readDocument "# list\na: 1\n  - b" = .error (.malformed (.strayItem "- b".toList) (some 3)) ∧
      (Document.SaysSomething "# list\na: 1\n  - b".toList 3 ↔
        ¬ (Document.Complaint.strayItem "- b".toList = .afterDocument ∧ 3 = (Text.splitLines "# list\na: 1\n  - b".toList).length + 1)) := by
  have failed : readDocument "# list\na: 1\n  - b" = .error (.malformed (.strayItem "- b".toList) (some 3)) :=
    Document.scanned_fault 100 _ _ (by decide) (by decide) (by decide +kernel)
  exact ⟨failed, complaint_line_says_iff _ _ _ failed⟩

-- The entry behind the list is found to be too much only when it has been read, and by then the document is at its end.
theorem entry_told_behind_document : readDocument "- a\nb: 1" = .error (.malformed .afterDocument (some 3)) ∧
    ¬ Document.SaysSomething "- a\nb: 1".toList 3 := by
  refine ⟨Document.scanned_fault 60 _ _ (by decide) (by decide) (by decide +kernel), ?_⟩
  rintro ⟨-, row, found, -⟩
  have lines : Text.splitLines "- a\nb: 1".toList = ["- a".toList, "b: 1".toList] := by decide +kernel
  rw [lines] at found
  cases found

end PipelineLint
