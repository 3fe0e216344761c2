import PipelineLint.Proofs.FaultCauses

set_option autoImplicit false

namespace PipelineLint.Document

open Text (Drawn)

theorem after_colon_suffix (text value : List Char) (found : afterColon? text = some value) : value <:+ text := by
  unfold afterColon? at found
  split at found
  · cases found
    exact List.suffix_refl []
  · rename_i c rest
    split at found
    · cases found
      have left : Text.trimLeft rest <:+ rest := List.dropWhile_suffix _
      exact left.trans (List.suffix_cons c rest)
    · cases found

theorem behind_quoted_suffix (text value : List Char) (found : afterQuotedKey? text = some value) : value <:+ text := by
  have left : Text.trimLeft text <:+ text := List.dropWhile_suffix _
  unfold afterQuotedKey? at found
  split at found
  · rename_i rest colon
    rw [colon] at left
    exact (after_colon_suffix rest value found).trans ((List.suffix_cons ':' rest).trans left)
  · cases found

theorem double_key_split (text inside after : List Char) (taken : takeDoubleKey? text = some (inside, after)) :
    text = inside ++ '"' :: after := by
  fun_induction takeDoubleKey? text generalizing inside with
  | case1 => cases taken
  | case2 rest =>
      cases taken
      rfl
  | case3 => cases taken
  | case4 c rest ih =>
      obtain ⟨⟨others, left⟩, found, same⟩ := Option.map_eq_some_iff.mp taken
      cases same
      rw [ih others found]
      rfl
  | case5 c rest _ _ _ ih =>
      obtain ⟨⟨others, left⟩, found, same⟩ := Option.map_eq_some_iff.mp taken
      cases same
      rw [ih others found]
      rfl

theorem single_key_suffix (text inside after : List Char) (taken : takeSingleKey? text = some (inside, after)) : after <:+ text := by
  fun_induction takeSingleKey? text generalizing inside with
  | case1 => cases taken
  | case2 rest ih =>
      obtain ⟨⟨others, left⟩, found, same⟩ := Option.map_eq_some_iff.mp taken
      cases same
      exact (ih others found).trans ((List.suffix_cons _ _).trans (List.suffix_cons _ _))
  | case3 rest =>
      cases taken
      exact List.suffix_cons _ _
  | case4 c rest _ _ ih =>
      obtain ⟨⟨others, left⟩, found, same⟩ := Option.map_eq_some_iff.mp taken
      cases same
      exact (ih others found).trans (List.suffix_cons c rest)

theorem plain_key_suffix (before : Char) (text inside value : List Char) (taken : takePlainKey? before text = some (inside, value)) :
    value <:+ text := by
  fun_induction takePlainKey? before text generalizing inside with
  | case1 => cases taken
  | case2 before c rest said found =>
      cases taken
      split at found
      · exact (after_colon_suffix rest value found).trans (List.suffix_cons c rest)
      · cases found
  | case3 => cases taken
  | case4 before c rest _ _ ih =>
      obtain ⟨⟨others, left⟩, found, same⟩ := Option.map_eq_some_iff.mp taken
      cases same
      exact (ih others found).trans (List.suffix_cons c rest)

theorem entry_value_suffix (text : List Char) (head : EntryHead) (entry : entryHead? text = some head) : head.value <:+ text := by
  unfold entryHead? at entry
  split at entry
  · cases entry
  · rename_i rest
    split at entry
    · rename_i inside after taken
      obtain ⟨value, found, rfl⟩ := Option.map_eq_some_iff.mp entry
      have behind : after <:+ '"' :: rest := by
        rw [double_key_split rest inside after taken]
        exact ⟨'"' :: (inside ++ ['"']), by simp⟩
      exact (behind_quoted_suffix after value found).trans behind
    · cases entry
  · rename_i rest
    split at entry
    · rename_i inside after taken
      obtain ⟨value, found, rfl⟩ := Option.map_eq_some_iff.mp entry
      have behind := (single_key_suffix rest inside after taken).trans (List.suffix_cons '\'' rest)
      exact (behind_quoted_suffix after value found).trans behind
    · cases entry
  · rename_i c rest _ _
    split at entry
    · obtain ⟨⟨inside, value⟩, taken, rfl⟩ := Option.map_eq_some_iff.mp entry
      exact (plain_key_suffix c rest inside value taken).trans (List.suffix_cons c rest)
    · cases entry

theorem key_cause (text : List Char) (head : EntryHead) (entry : entryHead? text = some head) (fault : Fault)
    (failed : head.key.read = .error fault) : fault.HasCause text := by
  unfold entryHead? at entry
  split at entry
  · cases entry
  · rename_i rest
    split at entry
    · rename_i inside after taken
      obtain ⟨value, found, rfl⟩ := Option.map_eq_some_iff.mp entry
      simp only [KeyText.read] at failed
      split at failed
      · cases failed
      · rename_i bad
        cases failed
        obtain ⟨more, ⟨front, split⟩, few⟩ := double_loose _ bad
        rcases List.eq_nil_or_concat' more with rfl | ⟨others, c, rfl⟩
        · have last := congrArg List.getLast? split
          simp at last
        · have whole : (front ++ '\\' :: 'u' :: others) ++ [c] = inside ++ ['"'] := by simpa using split
          obtain ⟨before, ends⟩ := List.append_inj' whole rfl
          cases ends
          refine ⟨others ++ '"' :: after, ⟨'"' :: front, ?_⟩, ?_⟩
          · rw [double_key_split rest inside after taken, ← before]
            simp
          · rw [(Text.run_before isHex others [] '"' rfl).1] at few
            rwa [(Text.run_before isHex others after '"' rfl).1]
      · cases failed
        trivial
    · cases entry
  · rename_i rest
    split at entry
    · obtain ⟨value, found, rfl⟩ := Option.map_eq_some_iff.mp entry
      cases failed
    · cases entry
  · split at entry
    · obtain ⟨⟨inside, value⟩, taken, rfl⟩ := Option.map_eq_some_iff.mp entry
      cases failed
    · cases entry

-- A reading that fails does so for a cause that stands in the document.
def Explained (source : List Char) (reading : Reading) : Prop :=
  ∀ fault, reading = .error fault → fault.HasCause source

section

variable (source : List Char)

theorem explained_ok (found : Value × Cursor) : Explained source (.ok found) := by
  rintro fault ⟨⟩

theorem explained_fault (fault : Fault) (cause : fault.HasCause source) : Explained source (.error fault) := by
  rintro _ ⟨⟩
  exact cause

theorem explained_bind (reading : Reading) (next : Value × Cursor → Reading) (first : Explained source reading)
    (onward : ∀ value place, reading = .ok (value, place) → Explained source (next (value, place))) :
    Explained source (reading.bind next) := by
  cases reading with
  | error fault => exact first
  | ok found => exact onward found.1 found.2 rfl

theorem dashed_drawn (line item : Line) (rest : List Line) (behind : line.afterDash? = some item)
    (drawn : Drawn (joined (line :: rest)) source) : Drawn (joined (item :: rest)) source := by
  rw [joined_cons] at drawn ⊢
  obtain ⟨front, split⟩ := after_dash_suffix line item behind
  exact Text.drawn_trans _ _ _ (Text.drawn_suffix _ _ ⟨front, by rw [← split, List.append_assoc]⟩) drawn

theorem gathered_explained (piece : Line → List Char) (finish : List Char → List Char) (text : List Char) (cursor : Cursor)
    (said : ∀ line, Drawn (piece line) line.body) (finished : ∀ text, Drawn (finish text) text)
    (drawn : Drawn (goingOn text cursor.lines) source) : Explained source (placed (readGathered piece finish text cursor)) := by
  rw [gathered_reading]
  split
  · exact explained_ok source _
  · rename_i fault failed
    have cause := inline_cause _ fault failed
    have wide := cause_drawn fault _ source (Text.drawn_trans _ _ _ (finished _)
      (Text.drawn_trans _ _ _ (gathered_drawn piece said text cursor.lines) drawn)) cause
    refine explained_fault source _ ?_
    cases fault <;> exact wide

theorem scalar_explained (text : List Char) (parent : Nat) (cursor : Cursor) (drawn : Drawn (goingOn text cursor.lines) source) :
    Explained source (placed (readScalar text parent cursor)) := by
  have stripped (line : Line) : Drawn (stripComment line.content) line.body :=
    Text.drawn_trans _ _ _ (drawn_strip _) (Text.drawn_trim _)
  rw [scalar_reading]
  split
  · exact explained_ok source _
  · split
    · exact gathered_explained source _ id text cursor stripped Text.drawn_refl drawn
    · split
      · exact gathered_explained source _ stripComment text cursor (fun line => Text.drawn_trim line.body) drawn_strip drawn
      · dsimp only
        split
        · exact explained_ok source _
        · rename_i fault failed
          have cause := plain_caused _ _ fault (List.infix_refl _) failed
          exact explained_fault source _ (cause_drawn fault _ source (Text.drawn_trans _ _ _ (continued_drawn parent text cursor.lines) drawn) cause)

theorem explained_behind (cursor : Cursor) (behind : Cursor → Reading) (drawn : Drawn (joined cursor.lines) source)
    (at_end : ∀ number, Explained source (behind ⟨number, []⟩))
    (at_line : ∀ number line rest, Drawn (joined (line :: rest)) source → weightOf (line :: rest) ≤ weightOf cursor.lines →
      Explained source (behind ⟨number, line :: rest⟩)) :
    Explained source (behind (settle cursor.number cursor.lines)) := by
  have suffix := settle_suffix cursor.number cursor.lines
  cases settled : settle cursor.number cursor.lines with
  | mk number left =>
      rw [settled] at suffix
      cases left with
      | nil => exact at_end number
      | cons line rest =>
          exact at_line number line rest (Text.drawn_trans _ _ _ (Text.drawn_suffix _ _ (joined_suffix _ _ suffix)) drawn)
            (weightOf_suffix suffix)

theorem lines_behind (text : List Char) (lines left : List Line) (suffix : left <:+ lines) (drawn : Drawn (goingOn text lines) source) :
    Drawn (joined left) source := by
  refine Text.drawn_trans _ _ _ (Text.drawn_suffix _ _ ?_) drawn
  exact (joined_suffix left lines suffix).trans ((List.suffix_cons '\n' _).trans (List.suffix_append text _))

mutual

theorem block_explained (number : Nat) (line : Line) (rest : List Line) (drawn : Drawn (joined (line :: rest)) source) :
    Explained source (blockReading number line rest) := by
  rw [block_reading]
  cases behind : line.afterDash? with
  | none => exact mapping_explained line.indent [] number line rest drawn
  | some item =>
      have lighter := weight_afterDash? behind
      exact sequence_explained line.indent [] line.indent item number rest (dashed_drawn source line item rest behind drawn)
termination_by 4 * weightOf (line :: rest) + 1
decreasing_by
  all_goals simp only [weightOf_cons]
  all_goals omega

theorem mapping_explained (indent : Nat) (entries : Entries) (number : Nat) (line : Line) (rest : List Line)
    (drawn : Drawn (joined (line :: rest)) source) : Explained source (mappingReading indent entries number line rest) := by
  have positive := weight_pos line
  rw [joined_cons] at drawn
  rw [mapping_reading]
  cases entry : entryHead? line.content with
  | none => exact explained_fault source _ trivial
  | some head =>
      simp only
      have content : Drawn (goingOn line.content rest) source :=
        Text.drawn_trans _ _ _ (going_on_drawn _ _ rest rest (Text.drawn_trim line.body) (List.suffix_refl rest)) drawn
      cases named : head.key.read with
      | error fault =>
          have cause := key_cause line.content head entry fault named
          exact explained_fault source fault
            (cause_drawn fault _ source (Text.drawn_trans _ _ _ (going_on_front line.content rest) content) cause)
      | ok key =>
          have said := Text.drawn_suffix _ _ (entry_value_suffix line.content head entry)
          have onward : Drawn (goingOn head.value rest) source :=
            Text.drawn_trans _ _ _ (going_on_drawn _ _ rest rest said (List.suffix_refl rest)) content
          have value := value_explained head.value line.indent ⟨number + 1, rest⟩ onward
          refine explained_bind source _ _ value fun value place found => ?_
          have suffix := placed_suffix _ _ _ found
          have left := weightOf_suffix suffix
          refine explained_behind source place (mappingBehind indent _) (lines_behind source _ rest _ suffix onward)
            (fun _ => explained_ok source _) ?_
          intro nextNumber next more below lighter
          rw [mappingBehind]
          split
          · exact explained_ok source _
          · split
            · split
              · exact explained_ok source _
              · exact explained_fault source _ trivial
            · exact mapping_explained indent _ nextNumber next more below
termination_by 4 * weightOf (line :: rest)
decreasing_by
  all_goals simp only [weightOf_cons] at *
  all_goals omega

theorem sequence_explained (indent : Nat) (items : List Value) (dash : Nat) (item : Line) (number : Nat) (rest : List Line)
    (drawn : Drawn (joined (item :: rest)) source) :
    Explained source (sequenceReading indent items dash item number rest) := by
  have positive := weight_pos item
  have behind : Drawn (goingOn item.body rest) source := by rwa [joined_cons] at drawn
  rw [sequence_reading]
  refine explained_bind source _ _ (item_explained dash item number rest drawn) fun value place found => ?_
  have suffix := placed_suffix _ _ _ found
  have left := weightOf_suffix suffix
  refine explained_behind source place (sequenceBehind indent _) (lines_behind source _ rest _ suffix behind)
    (fun _ => explained_ok source _) ?_
  intro nextNumber next more below lighter
  rw [sequenceBehind]
  split
  · exact explained_ok source _
  · cases dashed : next.afterDash? with
    | none =>
        simp only
        split
        · exact explained_ok source _
        · exact explained_fault source _ trivial
    | some nextItem =>
        have shorter := weight_afterDash? dashed
        exact sequence_explained indent _ next.indent nextItem nextNumber more (dashed_drawn source next nextItem more dashed below)
termination_by 4 * weightOf (item :: rest) + 3
decreasing_by
  all_goals simp only [weightOf_cons] at *
  all_goals omega

theorem item_explained (dash : Nat) (item : Line) (number : Nat) (rest : List Line) (drawn : Drawn (joined (item :: rest)) source) :
    Explained source (itemReading dash item number rest) := by
  have positive := weight_pos item
  have onward : Drawn (goingOn item.body rest) source := by rwa [joined_cons] at drawn
  rw [item_reading]
  split
  · refine explained_behind source ⟨number + 1, rest⟩ (itemBelow dash) (lines_behind source _ rest _ (List.suffix_refl rest) onward)
      (fun _ => explained_ok source _) ?_
    intro nextNumber next more below lighter
    rw [itemBelow]
    split
    · exact block_explained nextNumber next more below
    · exact explained_ok source _
  · split
    · exact block_explained number item rest drawn
    · exact value_explained item.body dash ⟨number + 1, rest⟩ onward
termination_by 4 * weightOf (item :: rest) + 2
decreasing_by
  all_goals simp only [weightOf_cons] at *
  all_goals omega

theorem value_explained (text : List Char) (parent : Nat) (cursor : Cursor) (drawn : Drawn (goingOn text cursor.lines) source) :
    Explained source (valueReading text parent cursor) := by
  rw [value_reading]
  split
  · refine explained_behind source cursor (valueBelow parent) (lines_behind source text _ _ (List.suffix_refl _) drawn)
      (fun _ => explained_ok source _) ?_
    intro nextNumber next more below lighter
    rw [valueBelow]
    split
    · exact block_explained nextNumber next more below
    · split
      · cases dashed : next.afterDash? with
        | none => exact explained_ok source _
        | some item =>
            have shorter := weight_afterDash? dashed
            exact sequence_explained next.indent [] next.indent item nextNumber more (dashed_drawn source next item more dashed below)
      · exact explained_ok source _
  · have said : Drawn (Text.trim (stripComment text)) text := Text.drawn_trans _ _ _ (Text.drawn_trim _) (drawn_strip text)
    exact scalar_explained source _ parent cursor
      (Text.drawn_trans _ _ _ (going_on_drawn _ _ _ _ said (List.suffix_refl _)) drawn)
termination_by 4 * weightOf cursor.lines + 2
decreasing_by
  all_goals simp only [weightOf_cons] at *
  all_goals omega

end

theorem more_explained (value : Value) (cursor : Cursor) (drawn : Drawn (joined cursor.lines) source) (fault : Fault)
    (failed : readMore value cursor = .error fault) : fault.HasCause source := by
  rw [more_reading] at failed
  have suffix := settle_suffix cursor.number cursor.lines
  cases settled : settle cursor.number cursor.lines with
  | mk number lines =>
      rw [settled] at failed suffix
      cases lines with
      | nil => cases failed
      | cons line rest =>
          have positive := weight_pos line
          have lighter := weightOf_suffix suffix
          have here : Drawn (joined (line :: rest)) source :=
            Text.drawn_trans _ _ _ (Text.drawn_suffix _ _ (joined_suffix _ _ suffix)) drawn
          have behind : Drawn (goingOn line.body rest) source := by rwa [joined_cons] at here
          have first := block_explained source number line rest here
          simp only at failed
          cases block : blockReading number line rest with
          | error found =>
              rw [block] at failed
              cases failed
              exact first fault block
          | ok found =>
              have left := placed_suffix _ _ _ block
              have less := weightOf_suffix left
              rw [block] at failed
              simp only [Except.bind] at failed
              cases joins : joined? value found.1 with
              | none =>
                  rw [joins] at failed
                  cases failed
                  trivial
              | some whole =>
                  rw [joins] at failed
                  exact more_explained whole found.2 (lines_behind source _ rest _ left behind) fault failed
termination_by weightOf cursor.lines
decreasing_by
  simp only [weightOf_cons] at *
  omega

end

theorem lines_cause (source : List Char) (lines : List Line) (drawn : Drawn (joined lines) source) (fault : Fault)
    (failed : readLines lines = .error fault) : fault.HasCause source := by
  have suffix := settle_suffix 1 lines
  rw [lines_reading] at failed
  split at failed
  · cases failed
  · rename_i number line rest settled
    rw [settled] at suffix
    have here : Drawn (joined (line :: rest)) source :=
      Text.drawn_trans _ _ _ (Text.drawn_suffix _ _ (joined_suffix _ _ suffix)) drawn
    have behind : Drawn (goingOn line.body rest) source := by rwa [joined_cons] at here
    cases block : blockReading number line rest with
    | error found =>
        rw [block] at failed
        cases failed
        exact block_explained source number line rest here fault block
    | ok found =>
        have left := placed_suffix _ _ _ block
        rw [block] at failed
        exact more_explained source found.1 found.2 (lines_behind source _ rest _ left behind) fault failed

-- A text is refused without a complaint only where it spells an escape, a number or a key that there cannot be.
theorem read_text_cause (text : List Char) (fault : Fault) (failed : readText text = .error fault) : fault.HasCause text := by
  unfold readText at failed
  simp only at failed
  split at failed
  · split at failed
    · cases failed
    · rename_i long
      cases failed
      exact cause_drawn .integerTooLong _ text (Text.drawn_trim text) (Json.read_cause none _ long)
    · exact lines_cause text _ (lines_drawn text) fault failed
  · exact lines_cause text _ (lines_drawn text) fault failed

end PipelineLint.Document
