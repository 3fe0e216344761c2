import PipelineLint.Proofs.Blocks

set_option autoImplicit false

namespace PipelineLint.Document

abbrev Reading := Except Fault (Value × Cursor)

def placed {lines : List Line} (reading : Except Fault (Value × After lines)) : Reading :=
  reading.map fun found => (found.1, found.2.1)

@[simp] theorem placed_ok {lines : List Line} (value : Value) (place : After lines) :
    placed (.ok (value, place)) = .ok (value, place.1) := rfl

@[simp] theorem placed_error {lines : List Line} (fault : Fault) :
    placed (.error fault : Except Fault (Value × After lines)) = .error fault := rfl

theorem placed_suffix {lines : List Line} (reading : Except Fault (Value × After lines)) (value : Value) (cursor : Cursor)
    (found : placed reading = .ok (value, cursor)) : cursor.lines <:+ lines := by
  cases reading with
  | error fault => cases found
  | ok read =>
      cases found
      exact read.2.2

def blockReading (number : Nat) (line : Line) (rest : List Line) : Reading :=
  placed (readBlock number line rest)

def mappingReading (indent : Nat) (entries : Entries) (number : Nat) (line : Line) (rest : List Line) : Reading :=
  placed (readMapping indent entries number line rest)

def sequenceReading (indent : Nat) (items : List Value) (dash : Nat) (item : Line) (number : Nat) (rest : List Line) : Reading :=
  placed (readSequence indent items dash item number rest)

def itemReading (dash : Nat) (item : Line) (number : Nat) (rest : List Line) : Reading :=
  placed (readItem dash item number rest)

def valueReading (text : List Char) (parent : Nat) (cursor : Cursor) : Reading :=
  placed (readValue text parent cursor)

theorem block_reading (number : Nat) (line : Line) (rest : List Line) : blockReading number line rest =
    match line.afterDash? with
    | some item => sequenceReading line.indent [] line.indent item number rest
    | none => mappingReading line.indent [] number line rest := by
  unfold blockReading
  cases behind : line.afterDash? with
  | some item => rw [read_block_sequence number line item rest behind]; rfl
  | none => rw [read_block_mapping number line rest behind]; rfl

def mappingBehind (indent : Nat) (entries : Entries) : Cursor → Reading
  | ⟨number, []⟩ => .ok (.map entries, ⟨number, []⟩)
  | ⟨number, line :: rest⟩ =>
      if line.indent < indent then .ok (.map entries, ⟨number, line :: rest⟩)
      else if isItemText line.content then
        if line.indent = indent then .ok (.map entries, ⟨number, line :: rest⟩)
        else .error (.malformed (.strayItem line.content) (some number))
      else mappingReading indent entries number line rest

theorem mapping_reading (indent : Nat) (entries : Entries) (number : Nat) (line : Line) (rest : List Line) :
    mappingReading indent entries number line rest =
      match entryHead? line.content with
      | none => .error (.malformed (.expectedEntry line.content) (some number))
      | some head => head.key.read.bind fun key =>
          (valueReading head.value line.indent ⟨number + 1, rest⟩).bind fun found =>
            mappingBehind indent (entries.put (.str key) found.1) (settle found.2.number found.2.lines) := by
  unfold mappingReading valueReading
  rw [readMapping]
  cases entryHead? line.content with
  | none => rfl
  | some head =>
      simp only
      cases head.key.read with
      | error fault => rfl
      | ok key =>
          simp only [Except.bind]
          cases readValue head.value line.indent ⟨number + 1, rest⟩ with
          | error fault => rfl
          | ok found =>
              obtain ⟨value, place⟩ := found
              simp only [placed_ok]
              split
              · rename_i last next
                have settled : settle place.1.number place.1.lines = ⟨last, []⟩ := next
                rw [settled, placed_ok, next]
                rfl
              · rename_i nextNumber nextLine more next
                have settled : settle place.1.number place.1.lines = ⟨nextNumber, nextLine :: more⟩ := next
                rw [settled, mappingBehind]
                split
                · rw [placed_ok, next]
                · split
                  · split
                    · rw [placed_ok, next]
                    · rfl
                  · unfold mappingReading
                    cases readMapping indent (entries.put (.str key) value) nextNumber nextLine more <;> rfl

def sequenceBehind (indent : Nat) (items : List Value) : Cursor → Reading
  | ⟨number, []⟩ => .ok (.list items, ⟨number, []⟩)
  | ⟨number, line :: rest⟩ =>
      if line.indent < indent then .ok (.list items, ⟨number, line :: rest⟩)
      else
        match line.afterDash? with
        | none =>
            if line.indent = indent then .ok (.list items, ⟨number, line :: rest⟩)
            else .error (.malformed (.expectedItem line.content) (some number))
        | some item => sequenceReading indent items line.indent item number rest

theorem sequence_reading (indent : Nat) (items : List Value) (dash : Nat) (item : Line) (number : Nat) (rest : List Line) :
    sequenceReading indent items dash item number rest =
      (itemReading dash item number rest).bind fun found =>
        sequenceBehind indent (items ++ [found.1]) (settle found.2.number found.2.lines) := by
  unfold sequenceReading itemReading
  rw [readSequence]
  cases readItem dash item number rest with
  | error fault => rfl
  | ok found =>
      obtain ⟨value, place⟩ := found
      simp only [placed_ok, Except.bind]
      split
      · rename_i last next
        have settled : settle place.1.number place.1.lines = ⟨last, []⟩ := next
        rw [settled, placed_ok, next]
        rfl
      · rename_i nextNumber nextLine more next
        have settled : settle place.1.number place.1.lines = ⟨nextNumber, nextLine :: more⟩ := next
        rw [settled, sequenceBehind]
        split
        · rw [placed_ok, next]
        · split
          · rename_i plain
            simp only [plain]
            split
            · rw [placed_ok, next]
            · rfl
          · rename_i nextItem behind
            simp only [behind]
            unfold sequenceReading
            cases readSequence indent (items ++ [value]) nextLine.indent nextItem nextNumber more <;> rfl

def itemBelow (dash : Nat) : Cursor → Reading
  | ⟨number, []⟩ => .ok (.null, ⟨number, []⟩)
  | ⟨number, line :: rest⟩ =>
      if dash < line.indent then blockReading number line rest else .ok (.null, ⟨number, line :: rest⟩)

theorem item_reading (dash : Nat) (item : Line) (number : Nat) (rest : List Line) : itemReading dash item number rest =
    if Text.trim (stripComment item.body) = [] then itemBelow dash (settle (number + 1) rest)
    else if isItemText item.body || (entryHead? (stripComment item.body)).isSome then blockReading number item rest
    else valueReading item.body dash ⟨number + 1, rest⟩ := by
  unfold itemReading
  rw [readItem]
  simp only
  split
  · split
    · rename_i last next
      have settled : settle (number + 1) rest = ⟨last, []⟩ := next
      rw [settled, placed_ok, next]
      rfl
    · rename_i nextNumber nextLine more next
      have settled : settle (number + 1) rest = ⟨nextNumber, nextLine :: more⟩ := next
      rw [settled, itemBelow]
      split
      · unfold blockReading
        cases readBlock nextNumber nextLine more <;> rfl
      · rw [placed_ok, next]
  · split <;> rfl

def valueBelow (parent : Nat) : Cursor → Reading
  | ⟨number, []⟩ => .ok (.null, ⟨number, []⟩)
  | ⟨number, line :: rest⟩ =>
      if parent < line.indent then blockReading number line rest
      else if line.indent = parent then
        match line.afterDash? with
        | none => .ok (.null, ⟨number, line :: rest⟩)
        | some item => sequenceReading line.indent [] line.indent item number rest
      else .ok (.null, ⟨number, line :: rest⟩)

theorem value_reading (text : List Char) (parent : Nat) (cursor : Cursor) : valueReading text parent cursor =
    if Text.trim (stripComment text) = [] then valueBelow parent (settle cursor.number cursor.lines)
    else placed (readScalar (Text.trim (stripComment text)) parent cursor) := by
  unfold valueReading
  rw [readValue]
  simp only
  split
  · split
    · rename_i last next
      have settled : settle cursor.number cursor.lines = ⟨last, []⟩ := next
      rw [settled, placed_ok, next]
      rfl
    · rename_i nextNumber nextLine more next
      have settled : settle cursor.number cursor.lines = ⟨nextNumber, nextLine :: more⟩ := next
      rw [settled, valueBelow]
      split
      · unfold blockReading
        cases readBlock nextNumber nextLine more <;> rfl
      · split
        · split
          · rename_i plain
            simp only [plain]
            rw [placed_ok, next]
          · rename_i item behind
            simp only [behind]
            unfold sequenceReading
            cases readSequence nextLine.indent [] nextLine.indent item nextNumber more <;> rfl
        · rw [placed_ok, next]
  · rfl

theorem gathered_reading (piece : Line → List Char) (finish : List Char → List Char) (text : List Char) (cursor : Cursor) :
    placed (readGathered piece finish text cursor) =
      match readInline (finish (gather piece text cursor.lines).1) with
      | .ok value => .ok (value, cursor.moveTo (gather piece text cursor.lines).2)
      | .error fault => .error (fault.atLine (cursor.number - 1)) := by
  unfold readGathered
  simp only
  cases readInline (finish (gather piece text cursor.lines).1) <;> rfl

theorem scalar_reading (text : List Char) (parent : Nat) (cursor : Cursor) : placed (readScalar text parent cursor) =
    match blockHeader? text with
    | some header =>
        let body := takeBody parent (header.depth.map (parent + ·)) cursor.lines
        .ok (.str (String.ofList (blockText header body.1)), cursor.moveTo body.2)
    | none =>
        if text.head?.any opensFlow then placed (readGathered (fun line => stripComment line.content) id text cursor)
        else if text.head?.any isQuote then placed (readGathered Line.content stripComment text cursor)
        else
          let more := takeContinuation parent cursor.lines
          match coercePlain ([' '].intercalate (text :: more.1)) with
          | .ok value => .ok (value, cursor.moveTo more.2)
          | .error fault => .error fault := by
  unfold readScalar
  cases blockHeader? text with
  | some header => rfl
  | none =>
      simp only
      split
      · rfl
      · split
        · rfl
        · cases coercePlain ([' '].intercalate (text :: (takeContinuation parent cursor.lines).1)) <;> rfl

def joined? : Value → Value → Option Value
  | .map entries, .map others => some (.map (Entries.putAll entries others))
  | _, _ => none

theorem more_reading (value : Value) (cursor : Cursor) : readMore value cursor =
    match settle cursor.number cursor.lines with
    | ⟨_, []⟩ => .ok value
    | ⟨number, line :: rest⟩ => (blockReading number line rest).bind fun found =>
        match joined? value found.1 with
        | some whole => readMore whole found.2
        | none => .error (.malformed .afterDocument (some found.2.number)) := by
  unfold blockReading
  rw [readMore]
  split
  · rename_i next
    rw [next]
  · rename_i number line rest next
    rw [next]
    simp only
    cases readBlock number line rest with
    | error fault => rfl
    | ok found =>
        obtain ⟨more, place⟩ := found
        cases value <;> cases more <;> rfl

theorem lines_reading (lines : List Line) : readLines lines =
    match settle 1 lines with
    | ⟨_, []⟩ => .ok (.map [])
    | ⟨number, line :: rest⟩ => (blockReading number line rest).bind fun found => readMore found.1 found.2 := by
  unfold readLines blockReading
  obtain ⟨number, significant⟩ := settle 1 lines
  cases significant with
  | nil => rfl
  | cons line rest =>
      simp only
      cases readBlock number line rest <;> rfl

end PipelineLint.Document
