import PipelineLint.Document.BlockScalar
import PipelineLint.Json.Reader
/-!
Documents in block style. Every reader here starts at a line that says something and gives back the
value together with the place behind it; that place is a suffix of the lines that followed, so each
step consumes its line.
-/

set_option autoImplicit false

namespace PipelineLint.Document

abbrev After (lines : List Line) := { cursor : Cursor // cursor.lines <:+ lines }

def After.settled {lines : List Line} (after : After lines) : After lines :=
  ⟨settle after.1.number after.1.lines,
    (settle_suffix after.1.number after.1.lines).trans after.2⟩

def After.moved (cursor : Cursor) {rest : List Line} (suffix : rest <:+ cursor.lines) :
    After cursor.lines :=
  ⟨cursor.moveTo rest, suffix⟩

def readGathered (piece : Line → List Char) (finish : List Char → List Char) (text : List Char)
    (cursor : Cursor) : Except Fault (Value × After cursor.lines) :=
  let all := gather piece text cursor.lines
  match readInline (finish all.1) with
  | .ok value => .ok (value, After.moved cursor (gather_suffix piece text cursor.lines))
  | .error fault => .error (fault.atLine (cursor.number - 1))

def readScalar (text : List Char) (parent : Nat) (cursor : Cursor) :
    Except Fault (Value × After cursor.lines) :=
  match blockHeader? text with
  | some header =>
      let depth := header.depth.map (parent + ·)
      let body := takeBody parent depth cursor.lines
      .ok (.str (String.ofList (blockText header body.1)),
        After.moved cursor (takeBody_suffix parent depth cursor.lines))
  | none =>
      let first := text.head?
      if first.any opensFlow then
        readGathered (fun line => stripComment line.content) id text cursor
      else if first.any isQuote then
        readGathered Line.content stripComment text cursor
      else
        let more := takeContinuation parent cursor.lines
        match coercePlain ([' '].intercalate (text :: more.1)) with
        | .ok value => .ok (value, After.moved cursor (takeContinuation_suffix parent cursor.lines))
        | .error fault => .error fault

theorem weight_settled {number : Nat} {lines more : List Line} {line : Line}
    (place : After lines) (found : place.settled.1 = ⟨number, line :: more⟩) :
    weightOf (line :: more) ≤ weightOf lines := by
  have suffix := place.settled.2
  rw [found] at suffix
  exact weightOf_suffix suffix

theorem weight_pos (line : Line) : 0 < line.weight :=
  Nat.succ_pos _

mutual

def readBlock (number : Nat) (line : Line) (rest : List Line) :
    Except Fault (Value × After rest) :=
  match _ : line.afterDash? with
  | some item => readSequence line.indent [] line.indent item number rest
  | none => readMapping line.indent [] number line rest
termination_by (weightOf (line :: rest), 1)
decreasing_by
  · exact Prod.Lex.left _ _ (by
      have := weight_afterDash? (by assumption)
      simp only [weightOf_cons]
      omega)
  · exact Prod.Lex.right _ (by decide)

def readMapping (indent : Nat) (entries : Entries) (number : Nat) (line : Line)
    (rest : List Line) : Except Fault (Value × After rest) :=
  match entryHead? line.content with
  | none => .error (.malformed (.expectedEntry line.content) (some number))
  | some head =>
      match head.key.read with
      | .error fault => .error fault
      | .ok key =>
          match readValue head.value line.indent ⟨number + 1, rest⟩ with
          | .error fault => .error fault
          | .ok (value, place) =>
              let entries := entries.put (.str key) value
              match next : place.settled.1 with
              | ⟨_, []⟩ => .ok (.map entries, place.settled)
              | ⟨nextNumber, nextLine :: more⟩ =>
                  if nextLine.indent < indent then .ok (.map entries, place.settled)
                  else if isItemText nextLine.content then
                    if nextLine.indent = indent then .ok (.map entries, place.settled)
                    else .error (.malformed (.strayItem nextLine.content) (some nextNumber))
                  else
                    match readMapping indent entries nextNumber nextLine more with
                    | .error fault => .error fault
                    | .ok (value, ⟨final, suffix⟩) =>
                        .ok (value, ⟨final, suffix.trans ((List.suffix_cons nextLine more).trans (by
                          have := place.settled.2
                          rw [next] at this
                          exact this))⟩)
termination_by (weightOf (line :: rest), 0)
decreasing_by
  · exact Prod.Lex.left _ _ (by
      have := weight_pos line
      simp only [weightOf_cons]
      omega)
  · exact Prod.Lex.left _ _ (by
      have below : weightOf (nextLine :: more) ≤ weightOf rest := weight_settled place next
      have := weight_pos line
      rw [weightOf_cons line rest]
      omega)

-- The items of a list in the column `indent`, put after those already read; the next one stands behind a dash in the column
-- `dash`.
def readSequence (indent : Nat) (items : List Value) (dash : Nat) (item : Line) (number : Nat)
    (rest : List Line) : Except Fault (Value × After rest) :=
  match readItem dash item number rest with
  | .error fault => .error fault
  | .ok (value, place) =>
      let items := items ++ [value]
      match next : place.settled.1 with
      | ⟨_, []⟩ => .ok (.list items, place.settled)
      | ⟨nextNumber, nextLine :: more⟩ =>
          if nextLine.indent < indent then .ok (.list items, place.settled)
          else
            match nextDash : nextLine.afterDash? with
            | none =>
                if nextLine.indent = indent then .ok (.list items, place.settled)
                else .error (.malformed (.expectedItem nextLine.content) (some nextNumber))
            | some nextItem =>
                match readSequence indent items nextLine.indent nextItem nextNumber more with
                | .error fault => .error fault
                | .ok (value, ⟨final, suffix⟩) =>
                    .ok (value, ⟨final, suffix.trans ((List.suffix_cons nextLine more).trans (by
                      have := place.settled.2
                      rw [next] at this
                      exact this))⟩)
termination_by (weightOf (item :: rest), 3)
decreasing_by
  · exact Prod.Lex.right _ (by decide)
  · exact Prod.Lex.left _ _ (by
      have below := weight_settled place next
      have := weight_afterDash? nextDash
      have := weight_pos item
      simp only [weightOf_cons] at below ⊢
      omega)

def readItem (dash : Nat) (item : Line) (number : Nat) (rest : List Line) :
    Except Fault (Value × After rest) :=
  let text := stripComment item.body
  if Text.trim text = [] then
    let place : After rest := ⟨⟨number + 1, rest⟩, List.suffix_refl rest⟩
    match next : place.settled.1 with
    | ⟨_, []⟩ => .ok (.null, place.settled)
    | ⟨nextNumber, nextLine :: more⟩ =>
        if dash < nextLine.indent then
          match readBlock nextNumber nextLine more with
          | .error fault => .error fault
          | .ok (value, ⟨final, suffix⟩) =>
              .ok (value, ⟨final, suffix.trans ((List.suffix_cons nextLine more).trans (by
                have := place.settled.2
                rw [next] at this
                exact this))⟩)
        else .ok (.null, place.settled)
  else if isItemText item.body || (entryHead? text).isSome then readBlock number item rest
  else readValue item.body dash ⟨number + 1, rest⟩
termination_by (weightOf (item :: rest), 2)
decreasing_by
  · exact Prod.Lex.left _ _ (by
      have below := weight_settled place next
      have := weight_pos item
      rw [weightOf_cons item rest]
      omega)
  · exact Prod.Lex.right _ (by decide)
  · exact Prod.Lex.left _ _ (by
      have := weight_pos item
      simp only [weightOf_cons]
      omega)

def readValue (text : List Char) (parent : Nat) (cursor : Cursor) :
    Except Fault (Value × After cursor.lines) :=
  let text := Text.trim (stripComment text)
  if text = [] then
    let place : After cursor.lines := ⟨cursor, List.suffix_refl cursor.lines⟩
    match next : place.settled.1 with
    | ⟨_, []⟩ => .ok (.null, place.settled)
    | ⟨nextNumber, nextLine :: more⟩ =>
        let below : nextLine :: more <:+ cursor.lines := by
          have := place.settled.2
          rw [next] at this
          exact this
        if parent < nextLine.indent then
          match readBlock nextNumber nextLine more with
          | .error fault => .error fault
          | .ok (value, ⟨final, suffix⟩) =>
              .ok (value, ⟨final, suffix.trans ((List.suffix_cons nextLine more).trans below)⟩)
        else if nextLine.indent = parent then
          match nextDash : nextLine.afterDash? with
          | none => .ok (.null, place.settled)
          | some item =>
              match readSequence nextLine.indent [] nextLine.indent item nextNumber more with
              | .error fault => .error fault
              | .ok (value, ⟨final, suffix⟩) =>
                  .ok (value, ⟨final, suffix.trans ((List.suffix_cons nextLine more).trans below)⟩)
        else .ok (.null, place.settled)
  else readScalar text parent cursor
termination_by (weightOf cursor.lines, 2)
decreasing_by
  · have weight := weight_settled place next
    rcases Nat.lt_or_eq_of_le weight with less | same
    · exact Prod.Lex.left _ _ less
    · rw [same]; exact Prod.Lex.right _ (by decide)
  · exact Prod.Lex.left _ _ (by
      have weight := weight_settled place next
      have := weight_afterDash? nextDash
      simp only [weightOf_cons] at weight ⊢
      omega)

end

-- Further blocks after the first one: mappings are joined, anything else is one block too many.
def readMore (value : Value) (cursor : Cursor) : Except Fault Value :=
  match _ : settle cursor.number cursor.lines with
  | ⟨_, []⟩ => .ok value
  | ⟨number, line :: rest⟩ =>
      match readBlock number line rest with
      | .error fault => .error fault
      | .ok (more, ⟨after, _⟩) =>
          match value, more with
          | .map entries, .map others => readMore (.map (Entries.putAll entries others)) after
          | _, _ => .error (.malformed .afterDocument (some after.number))
termination_by weightOf cursor.lines
decreasing_by
  rename_i next suffix
  have settled := settle_suffix cursor.number cursor.lines
  rw [next] at settled
  have below := weightOf_suffix settled
  have after := weightOf_suffix suffix
  have := weight_pos line
  rw [weightOf_cons] at below
  omega

def readLines (lines : List Line) : Except Fault Value :=
  match settle 1 lines with
  | ⟨_, []⟩ => .ok (.map [])
  | ⟨number, line :: rest⟩ =>
      match readBlock number line rest with
      | .error fault => .error fault
      | .ok (value, place) => readMore value place.1

def linesOf (text : List Char) : List Line :=
  (Text.splitLines text).map Line.ofText

/-- The value of a document. A text that starts with a bracket or a brace is read as JSON first,
and line by line if it is not well-formed. -/
def readText (text : List Char) : Except Fault Value :=
  let stripped := Text.trim text
  if stripped.head?.any opensFlow then
    match Json.read none stripped with
    | .ok value => .ok value
    | .error .integerTooLong => .error .integerTooLong
    | .error _ => readLines (linesOf text)
  else readLines (linesOf text)

end PipelineLint.Document

namespace PipelineLint

def readDocument (text : String) : Except Document.Fault Value :=
  Document.readText text.toList

end PipelineLint
