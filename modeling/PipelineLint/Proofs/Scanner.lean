import PipelineLint.Proofs.BlockReadings
import PipelineLint.Proofs.WrittenText
/-!
The block readers as one scanner over all lines of a document. An item with a block behind its dash takes the place of its own
line, and the scanner goes back to it. Main statement: the scanner gets ahead with every block, keeps the lines that it has not
come to, and ends; what it finds is what the readers find.
-/

set_option autoImplicit false

namespace PipelineLint

namespace Document

/-! ## The scanner -/

-- The lines of a document, some of them replaced by what stands behind their dash, and the number of lines that are done.
structure Scanner where
  lines : List Line
  position : Nat

namespace Scanner

def ahead (s : Scanner) : List Line :=
  s.lines.drop s.position

def cursor (s : Scanner) : Cursor :=
  ⟨s.position + 1, s.ahead⟩

def settled (s : Scanner) : Scanner :=
  { s with position := s.position + (s.ahead.takeWhile fun line => !line.isSignificant).length }

def advanced (s : Scanner) : Scanner :=
  { s with position := s.position + 1 }

def rewritten (s : Scanner) (item : Line) : Scanner :=
  { lines := s.lines.set (s.position - 1) item, position := s.position - 1 }

-- Nothing once there is no fuel left; every call hands on one less, so that the fuel bounds how deep the calls go.
abbrev Scan := Option (Except Fault (Value × Scanner))

def onward {α : Type} (scan : Scan) (next : Value → Scanner → Option (Except Fault α)) : Option (Except Fault α) :=
  match scan with
  | none => none
  | some (.error fault) => some (.error fault)
  | some (.ok (value, s)) => next value s

def scanScalar (text : List Char) (parent : Nat) (s : Scanner) : Scan :=
  match placed (readScalar text parent s.cursor) with
  | .error fault => some (.error fault)
  | .ok (value, place) => some (.ok (value, { s with position := place.number - 1 }))

mutual

def scanBlock : (fuel : Nat) → (indent : Nat) → Scanner → Scan
  | 0, _, _ => none
  | fuel + 1, indent, s =>
      match s.settled.ahead with
      | [] => scanMapping fuel indent [] s.settled
      | line :: _ =>
          if isItemText line.content then scanSequence fuel indent [] s.settled
          else scanMapping fuel indent [] s.settled

def scanMapping : (fuel : Nat) → (indent : Nat) → Entries → Scanner → Scan
  | 0, _, _, _ => none
  | fuel + 1, indent, entries, s =>
      match s.settled.ahead with
      | [] => some (.ok (.map entries, s.settled))
      | line :: _ =>
          if line.indent < indent then some (.ok (.map entries, s.settled))
          else if isItemText line.content then
            if line.indent = indent then some (.ok (.map entries, s.settled))
            else some (.error (.malformed (.strayItem line.content) (some s.settled.cursor.number)))
          else
            match entryHead? line.content with
            | none => some (.error (.malformed (.expectedEntry line.content) (some s.settled.cursor.number)))
            | some head =>
                match head.key.read with
                | .error fault => some (.error fault)
                | .ok key => onward (scanValue fuel head.value line.indent s.settled.advanced) fun value s =>
                    scanMapping fuel indent (entries.put (.str key) value) s

def scanSequence : (fuel : Nat) → (indent : Nat) → List Value → Scanner → Scan
  | 0, _, _, _ => none
  | fuel + 1, indent, items, s =>
      match s.settled.ahead with
      | [] => some (.ok (.list items, s.settled))
      | line :: _ =>
          if line.indent < indent then some (.ok (.list items, s.settled))
          else
            match line.afterDash? with
            | none =>
                if line.indent = indent then some (.ok (.list items, s.settled))
                else some (.error (.malformed (.expectedItem line.content) (some s.settled.cursor.number)))
            | some item => onward (scanItem fuel item line.indent s.settled.advanced) fun value s =>
                scanSequence fuel indent (items ++ [value]) s

def scanItem : (fuel : Nat) → (item : Line) → (dash : Nat) → Scanner → Scan
  | 0, _, _, _ => none
  | fuel + 1, item, dash, s =>
      if Text.trim (stripComment item.body) = [] then
        match s.settled.ahead with
        | [] => some (.ok (.null, s.settled))
        | line :: _ =>
            if dash < line.indent then scanBlock fuel line.indent s.settled else some (.ok (.null, s.settled))
      else if isItemText item.body || (entryHead? (stripComment item.body)).isSome then
        scanBlock fuel item.indent (s.rewritten item)
      else scanValue fuel item.body dash s

def scanValue : (fuel : Nat) → (text : List Char) → (parent : Nat) → Scanner → Scan
  | 0, _, _, _ => none
  | fuel + 1, text, parent, s =>
      if Text.trim (stripComment text) = [] then
        match s.settled.ahead with
        | [] => some (.ok (.null, s.settled))
        | line :: _ =>
            if parent < line.indent then scanBlock fuel line.indent s.settled
            else if line.indent = parent && isItemText line.content then scanSequence fuel line.indent [] s.settled
            else some (.ok (.null, s.settled))
      else scanScalar (Text.trim (stripComment text)) parent s

end

def scanMore : (fuel : Nat) → Value → Scanner → Option (Except Fault Value)
  | 0, _, _ => none
  | fuel + 1, value, s =>
      match s.settled.ahead with
      | [] => some (.ok value)
      | line :: _ => onward (scanBlock fuel line.indent s.settled) fun more s =>
          match joined? value more with
          | some whole => scanMore fuel whole s
          | none => some (.error (.malformed .afterDocument (some s.cursor.number)))

def scanDocument (fuel : Nat) (lines : List Line) : Option (Except Fault Value) :=
  let s : Scanner := ⟨lines, 0⟩
  match s.settled.ahead with
  | [] => some (.ok (.map []))
  | line :: _ => onward (scanBlock fuel line.indent s.settled) fun value s => scanMore fuel value s

/-! ## Lines ahead -/

-- What a stretch of scanning may do: go ahead, and change lines that it leaves behind.
structure Kept (before after : Scanner) : Prop where
  count : after.lines.length = before.lines.length
  ordered : before.position ≤ after.position
  lines : after.ahead = before.lines.drop after.position

theorem kept_trans (first second last : Scanner) (one : Kept first second) (two : Kept second last) : Kept first last := by
  refine ⟨two.count.trans one.count, Nat.le_trans one.ordered two.ordered, ?_⟩
  have behind : last.position = second.position + (last.position - second.position) := by
    have := two.ordered
    omega
  rw [two.lines, behind, ← List.drop_drop, ← List.drop_drop, ← Scanner.ahead, one.lines]

theorem kept_suffix (before after : Scanner) (kept : Kept before after) : after.ahead <:+ before.ahead := by
  have behind : after.position = before.position + (after.position - before.position) := by
    have := kept.ordered
    omega
  rw [kept.lines, behind, ← List.drop_drop]
  exact List.drop_suffix _ _

theorem kept_moved (s : Scanner) (count : Nat) : Kept s { s with position := s.position + count } :=
  ⟨rfl, Nat.le_add_right _ _, rfl⟩

theorem kept_settled (s : Scanner) : Kept s s.settled :=
  kept_moved s _

theorem kept_advanced (s : Scanner) : Kept s s.advanced :=
  kept_moved s 1

theorem settled_ahead (s : Scanner) : s.settled.ahead = s.ahead.dropWhile fun line => !line.isSignificant := by
  rw [← drop_take_while, ahead, settled, ← List.drop_drop]
  rfl

theorem settle_lines (number : Nat) (lines : List Line) : settle number lines =
    ⟨number + (lines.takeWhile fun line => !line.isSignificant).length, lines.dropWhile fun line => !line.isSignificant⟩ := by
  induction lines generalizing number with
  | nil => rfl
  | cons line rest ih =>
      cases significant : line.isSignificant with
      | true => simp [settle, significant]
      | false =>
          simp [settle, significant, ih]
          omega

theorem settled_cursor (s : Scanner) : s.settled.cursor = settle s.cursor.number s.cursor.lines := by
  rw [settle_lines, cursor, settled_ahead]
  simp only [settled, cursor]
  congr 1
  omega

def Shows (s : Scanner) (scan : Scan) : Reading → Prop
  | .error fault => scan = some (.error fault)
  | .ok (value, place) => ∃ after, scan = some (.ok (value, after)) ∧ after.cursor = place ∧ Kept s after

theorem shows_here (s : Scanner) (value : Value) (after : Scanner) (kept : Kept s after) :
    Shows s (some (.ok (value, after))) (.ok (value, after.cursor)) :=
  ⟨after, rfl, rfl, kept⟩

theorem shows_from (first second : Scanner) (scan : Scan) (reading : Reading) (kept : Kept first second)
    (shows_it : Shows second scan reading) : Shows first scan reading := by
  cases reading with
  | error fault => exact shows_it
  | ok found =>
      obtain ⟨after, scanned, place, later⟩ := shows_it
      exact ⟨after, scanned, place, kept_trans first second after kept later⟩

theorem shows_onward (s : Scanner) (scan : Scan) (reading : Reading) (next : Value → Scanner → Scan)
    (following : Value × Cursor → Reading) (shows_it : Shows s scan reading)
    (then_on : ∀ value after, Kept s after → Shows after (next value after) (following (value, after.cursor))) :
    Shows s (onward scan next) (reading.bind following) := by
  cases reading with
  | error fault =>
      rw [Shows] at shows_it
      rw [shows_it]
      rfl
  | ok found =>
      obtain ⟨after, rfl, place, kept⟩ := shows_it
      have later := then_on found.1 after kept
      rw [place] at later
      exact shows_from s after _ _ kept later

/-! ## The line of an item -/

theorem before_comment_start (c : Char) (more kept : List Char) (cut : beforeComment? none none (c :: more) = some kept) :
    kept = [] ∨ ∃ behind, kept = c :: behind := by
  rw [beforeComment?] at cut
  split at cut
  · obtain ⟨behind, -, rfl⟩ := Option.map_eq_some_iff.mp cut
    exact .inr ⟨behind, rfl⟩
  · split at cut
    · cases cut
      exact .inl rfl
    · obtain ⟨behind, -, rfl⟩ := Option.map_eq_some_iff.mp cut
      exact .inr ⟨behind, rfl⟩

theorem strip_comment_start (c d : Char) (text rest : List Char) (kept : stripComment (c :: text) = d :: rest) : c = d := by
  unfold stripComment at kept
  split at kept
  · rename_i front cut
    obtain ⟨dropped, split, -⟩ := Text.dropTrailing_append_dropped Text.isBlank front
    rw [← Text.trimRight, kept] at split
    rcases before_comment_start c text front cut with rfl | ⟨behind, rfl⟩
    · cases split
    · exact (List.cons.inj split).1
  · exact (List.cons.inj kept).1

theorem entry_start (c : Char) (rest : List Char) (entry : (entryHead? (c :: rest)).isSome = true) :
    Text.isBlank c = false ∧ c ≠ '#' := by
  by_cases double : c = '"'
  · subst double
    decide
  · by_cases single : c = '\''
    · subst single
      decide
    · rw [entry_head_plain c rest double single] at entry
      by_cases opens : opensPlainKey c = true
      · simp only [opensPlainKey, Bool.and_eq_true, Bool.not_eq_true'] at opens
        refine ⟨opens.1, ?_⟩
        rintro rfl
        exact absurd opens.2 (by decide)
      · simp [opens] at entry

theorem start_significant (c : Char) (more : List Char) (indent : Nat) (right : 0 < indent) (visible : Text.isBlank c = false)
    (no_comment : c ≠ '#') : Line.isSignificant ⟨indent, c :: more⟩ = true := by
  have content : Line.content ⟨indent, c :: more⟩ = c :: Text.trimRight more := by
    rw [Line.content, Text.trim, trim_left_of_head c more visible, trim_right_visible c more visible]
  rw [Line.isSignificant, content]
  simp [no_comment, Nat.ne_of_gt right]

-- An item that is read as a block of its own is never passed over as a blank line, a comment or a marker.
theorem item_significant (item : Line) (right : 0 < item.indent)
    (block : (isItemText item.body || (entryHead? (stripComment item.body)).isSome) = true) : item.isSignificant = true := by
  obtain ⟨indent, body⟩ := item
  rcases Bool.or_eq_true_iff.mp block with dash | entry
  · obtain ⟨more, rfl⟩ : ∃ more, body = '-' :: more := by
      simp only at dash
      unfold isItemText at dash
      split at dash
      · exact ⟨[], rfl⟩
      · exact ⟨_, rfl⟩
      · cases dash
    exact start_significant '-' more indent right (by decide) (by decide)
  · cases body with
    | nil => cases entry
    | cons c more =>
        cases kept : stripComment (c :: more) with
        | nil =>
            rw [kept] at entry
            cases entry
        | cons d rest =>
            obtain rfl := strip_comment_start c d more rest kept
            rw [kept] at entry
            obtain ⟨visible, no_comment⟩ := entry_start c rest entry
            exact start_significant c more indent right visible no_comment

theorem after_dash_right (line item : Line) (behind : line.afterDash? = some item) : 0 < item.indent := by
  unfold Line.afterDash? at behind
  split at behind
  · cases behind
    simp only
    omega
  · cases behind

/-! ## Scanning a block -/

theorem settled_end (s : Scanner) (nothing : s.ahead = []) : s.settled = s := by
  simp [settled, nothing]

theorem settled_at (s : Scanner) (line : Line) (rest : List Line) (here : s.ahead = line :: rest)
    (significant : line.isSignificant = true) : s.settled = s := by
  simp [settled, here, significant]

theorem ahead_settled (s : Scanner) (line : Line) (rest : List Line) (seen : s.settled.ahead = line :: rest) :
    line.isSignificant = true := by
  rw [settled_ahead] at seen
  have first := List.head?_dropWhile_not (fun line : Line => !line.isSignificant) s.ahead
  simpa [seen] using first

theorem settled_twice (s : Scanner) : s.settled.settled = s.settled := by
  cases seen : s.settled.ahead with
  | nil => exact settled_end s.settled seen
  | cons line rest => exact settled_at s.settled line rest seen (ahead_settled s line rest seen)

theorem advanced_ahead (s : Scanner) (line : Line) (rest : List Line) (seen : s.ahead = line :: rest) : s.advanced.ahead = rest := by
  rw [ahead] at seen
  rw [ahead, advanced, ← List.drop_drop, seen]
  rfl

theorem ahead_within (s : Scanner) (line : Line) (rest : List Line) (seen : s.ahead = line :: rest) :
    s.position + rest.length + 1 = s.lines.length := by
  have length := congrArg List.length seen
  simp only [ahead, List.length_drop, List.length_cons] at length
  omega

theorem rewritten_ahead (s : Scanner) (item : Line) (some_line : 0 < s.position) (within : s.position ≤ s.lines.length) :
    (s.rewritten item).ahead = item :: s.ahead := by
  have next : s.position - 1 + 1 = s.position := by omega
  have bound : s.position - 1 < s.lines.length := by omega
  have front : (s.lines.take (s.position - 1)).length = s.position - 1 := by
    rw [List.length_take]
    omega
  rw [ahead, rewritten, List.set_eq_take_append_cons_drop, if_pos bound]
  simp only
  rw [List.drop_append_of_le_length (by omega), List.drop_of_length_le (by omega), next]
  rfl

theorem kept_weight (before after : Scanner) (kept : Kept before after) : weightOf after.ahead ≤ weightOf before.ahead :=
  weightOf_suffix (kept_suffix before after kept)

theorem cursor_of (s : Scanner) (lines : List Line) (seen : s.ahead = lines) : s.cursor = ⟨s.position + 1, lines⟩ :=
  congrArg (Cursor.mk _) seen

theorem dashed_iff (line : Line) : line.afterDash?.isSome = isItemText line.content := by
  unfold Line.afterDash?
  split <;> simp_all

theorem block_ahead (s after : Scanner) (number : Nat) (line : Line) (rest : List Line) (value : Value)
    (seen : s.settled.ahead = line :: rest) (kept : Kept s after)
    (found : blockReading number line rest = .ok (value, after.cursor)) : s.settled.position < after.position := by
  have length := (placed_suffix _ _ _ found).length_le
  have within := ahead_within s.settled line rest seen
  have same : s.settled.lines.length = s.lines.length := rfl
  rw [cursor, kept.lines, List.length_drop] at length
  omega

theorem kept_rewritten (s after : Scanner) (item : Line) (kept : Kept (s.rewritten item) after)
    (later : s.position - 1 < after.position) : Kept s after := by
  refine ⟨?_, by omega, ?_⟩
  · simpa [rewritten] using kept.count
  · rw [kept.lines, rewritten]
    exact List.drop_set_of_lt later

theorem scalar_moved (text : List Char) (parent : Nat) (from_here place : Cursor) (value : Value)
    (found : placed (readScalar text parent from_here) = .ok (value, place)) :
    ∃ rest, rest <:+ from_here.lines ∧ place = from_here.moveTo rest := by
  have gathered (piece : Line → List Char) (finish : List Char → List Char)
      (read : placed (readGathered piece finish text from_here) = .ok (value, place)) :
      ∃ rest, rest <:+ from_here.lines ∧ place = from_here.moveTo rest := by
    rw [gathered_reading] at read
    split at read <;> cases read
    exact ⟨_, gather_suffix piece text from_here.lines, rfl⟩
  rw [scalar_reading] at found
  split at found
  · cases found
    exact ⟨_, takeBody_suffix parent _ from_here.lines, rfl⟩
  · split at found
    · exact gathered _ _ found
    · split at found
      · exact gathered _ _ found
      · simp only at found
        split at found <;> cases found
        exact ⟨_, takeContinuation_suffix parent from_here.lines, rfl⟩

theorem scalar_scanned (text : List Char) (parent : Nat) (s : Scanner) :
    Shows s (scanScalar text parent s) (placed (readScalar text parent s.cursor)) := by
  unfold scanScalar
  cases read : placed (readScalar text parent s.cursor) with
  | error fault => rfl
  | ok found =>
      obtain ⟨value, place⟩ := found
      obtain ⟨rest, ⟨taken, whole⟩, rfl⟩ := scalar_moved text parent s.cursor place value read
      have lines : s.ahead = taken ++ rest := whole.symm
      have moved : s.cursor.moveTo rest = ⟨s.position + taken.length + 1, rest⟩ := by
        have count : s.ahead.length - rest.length = taken.length := by
          rw [lines, List.length_append]
          omega
        simp only [Cursor.moveTo, cursor, count]
        congr 1
        omega
      rw [moved]
      refine ⟨_, rfl, ?_, kept_moved s taken.length⟩
      apply cursor_of
      rw [ahead] at lines ⊢
      simp only [Nat.add_sub_cancel]
      rw [← List.drop_drop, lines, List.drop_left]

mutual

theorem block_scanned (fuel : Nat) (s : Scanner) (line : Line) (rest : List Line) (seen : s.settled.ahead = line :: rest)
    (enough : 4 * weightOf (line :: rest) + 1 < fuel) :
    Shows s (scanBlock fuel line.indent s) (blockReading s.settled.cursor.number line rest) := by
  cases fuel with
  | zero => omega
  | succ fuel =>
      have weight : weightOf s.settled.settled.ahead = weightOf (line :: rest) := by rw [settled_twice, seen]
      have place : s.settled.settled.cursor = ⟨s.settled.cursor.number, line :: rest⟩ := by
        rw [settled_twice]
        exact cursor_of s.settled _ seen
      have dash := dashed_iff line
      rw [block_reading, scanBlock, seen]
      apply shows_from s s.settled _ _ (kept_settled s)
      cases behind : line.afterDash? with
      | none =>
          have scanned := mapping_scanned fuel line.indent [] s.settled (by omega)
          rw [behind, Option.isSome_none] at dash
          rw [place, mappingBehind, if_neg (Nat.lt_irrefl _)] at scanned
          simpa [← dash] using scanned
      | some item =>
          have scanned := sequence_scanned fuel line.indent [] s.settled (by omega)
          rw [behind, Option.isSome_some] at dash
          rw [place, sequenceBehind, if_neg (Nat.lt_irrefl _)] at scanned
          simpa [← dash, behind] using scanned

theorem mapping_scanned (fuel indent : Nat) (entries : Entries) (s : Scanner) (enough : 4 * weightOf s.settled.ahead < fuel) :
    Shows s (scanMapping fuel indent entries s) (mappingBehind indent entries s.settled.cursor) := by
  cases fuel with
  | zero => omega
  | succ fuel =>
      have here (value : Value) := shows_here s value s.settled (kept_settled s)
      rw [scanMapping]
      cases seen : s.settled.ahead with
      | nil =>
          rw [cursor_of s.settled [] seen] at here ⊢
          exact here _
      | cons line rest =>
          have positive := weight_pos line
          have below := advanced_ahead s.settled line rest seen
          rw [seen, weightOf_cons] at enough
          rw [cursor_of s.settled _ seen] at here ⊢
          simp only [mappingBehind]
          split
          · exact here _
          · split
            · split
              · exact here _
              · rfl
            · rw [mapping_reading]
              cases entryHead? line.content with
              | none => rfl
              | some head =>
                  simp only
                  cases head.key.read with
                  | error fault => rfl
                  | ok key =>
                      have value := value_scanned fuel head.value line.indent s.settled.advanced (by rw [below]; omega)
                      rw [cursor_of _ _ below] at value
                      apply shows_from s s.settled.advanced _ _ (kept_trans _ _ _ (kept_settled s) (kept_advanced _))
                      refine shows_onward _ _ _ _ _ value fun value after kept => ?_
                      have lighter := kept_weight _ _ (kept_trans _ _ _ kept (kept_settled after))
                      rw [below] at lighter
                      rw [← settled_cursor]
                      exact mapping_scanned fuel indent _ after (by omega)

theorem sequence_scanned (fuel indent : Nat) (items : List Value) (s : Scanner) (enough : 4 * weightOf s.settled.ahead < fuel) :
    Shows s (scanSequence fuel indent items s) (sequenceBehind indent items s.settled.cursor) := by
  cases fuel with
  | zero => omega
  | succ fuel =>
      have here (value : Value) := shows_here s value s.settled (kept_settled s)
      rw [scanSequence]
      cases seen : s.settled.ahead with
      | nil =>
          rw [cursor_of s.settled [] seen] at here ⊢
          exact here _
      | cons line rest =>
          have below := advanced_ahead s.settled line rest seen
          have within := ahead_within s.settled line rest seen
          rw [seen, weightOf_cons] at enough
          rw [cursor_of s.settled _ seen] at here ⊢
          simp only [sequenceBehind]
          split
          · exact here _
          · cases behind : line.afterDash? with
            | none =>
                simp only
                split
                · exact here _
                · rfl
            | some item =>
                have shorter := weight_afterDash? behind
                have value := item_scanned fuel item line.indent s.settled.advanced (after_dash_right line item behind)
                  (Nat.succ_pos _) (by simp only [advanced]; omega) (by rw [below, weightOf_cons]; omega)
                rw [below] at value
                simp only
                rw [sequence_reading]
                apply shows_from s s.settled.advanced _ _ (kept_trans _ _ _ (kept_settled s) (kept_advanced _))
                refine shows_onward _ _ _ _ _ value fun value after kept => ?_
                have lighter := kept_weight _ _ (kept_trans _ _ _ kept (kept_settled after))
                rw [below] at lighter
                rw [← settled_cursor]
                exact sequence_scanned fuel indent _ after (by omega)

theorem item_scanned (fuel : Nat) (item : Line) (dash : Nat) (s : Scanner) (right : 0 < item.indent) (some_line : 0 < s.position)
    (within : s.position ≤ s.lines.length) (enough : 4 * weightOf (item :: s.ahead) + 2 < fuel) :
    Shows s (scanItem fuel item dash s) (itemReading dash item s.position s.ahead) := by
  cases fuel with
  | zero => omega
  | succ fuel =>
      have positive := weight_pos item
      have lighter := kept_weight s s.settled (kept_settled s)
      rw [weightOf_cons] at enough
      rw [item_reading, scanItem]
      split
      · have place : settle (s.position + 1) s.ahead = s.settled.cursor := (settled_cursor s).symm
        have here (value : Value) := shows_here s value s.settled (kept_settled s)
        rw [place]
        cases seen : s.settled.ahead with
        | nil =>
            rw [cursor_of s.settled [] seen] at here ⊢
            exact here _
        | cons line rest =>
            rw [seen] at lighter
            have scanned := block_scanned fuel s.settled line rest (by rw [settled_twice, seen]) (by omega)
            rw [settled_twice] at scanned
            have number : s.settled.cursor.number = s.settled.position + 1 := rfl
            rw [cursor_of s.settled _ seen] at here ⊢
            simp only [itemBelow]
            split
            · exact shows_from s s.settled _ _ (kept_settled s) scanned
            · exact here _
      · split
        · rename_i block
          have rewritten_line := rewritten_ahead s item some_line within
          have stays := settled_at (s.rewritten item) item s.ahead rewritten_line (item_significant item right block)
          have scanned := block_scanned fuel (s.rewritten item) item s.ahead (by rw [stays, rewritten_line])
            (by rw [weightOf_cons]; omega)
          have number : (s.rewritten item).settled.cursor.number = s.position := by
            rw [stays]
            simp only [cursor, rewritten]
            omega
          rw [number] at scanned
          cases found : blockReading s.position item s.ahead with
          | error fault =>
              rw [found] at scanned
              exact scanned
          | ok read =>
              rw [found] at scanned
              obtain ⟨after, scan, place, kept⟩ := scanned
              have later := block_ahead (s.rewritten item) after s.position item s.ahead read.1
                (by rw [stays, rewritten_line]) kept (by rw [place, found])
              rw [stays] at later
              exact ⟨after, scan, place, kept_rewritten s after item kept later⟩
        · exact value_scanned fuel item.body dash s (by omega)

theorem value_scanned (fuel : Nat) (text : List Char) (parent : Nat) (s : Scanner) (enough : 4 * weightOf s.ahead + 2 < fuel) :
    Shows s (scanValue fuel text parent s) (valueReading text parent s.cursor) := by
  cases fuel with
  | zero => omega
  | succ fuel =>
      have lighter := kept_weight s s.settled (kept_settled s)
      rw [value_reading, scanValue]
      split
      · have here (value : Value) := shows_here s value s.settled (kept_settled s)
        rw [← settled_cursor]
        cases seen : s.settled.ahead with
        | nil =>
            rw [cursor_of s.settled [] seen] at here ⊢
            exact here _
        | cons line rest =>
            have place := cursor_of s.settled _ seen
            have deeper := block_scanned fuel s.settled line rest (by rw [settled_twice, seen]) (by rw [← seen]; omega)
            have level := sequence_scanned fuel line.indent [] s.settled (by rw [settled_twice]; omega)
            have dash := dashed_iff line
            rw [settled_twice] at deeper level
            rw [place] at here deeper level ⊢
            simp only [valueBelow]
            split
            · exact shows_from s s.settled _ _ (kept_settled s) deeper
            · by_cases column : line.indent = parent
              · rw [if_pos column]
                cases behind : line.afterDash? with
                | none =>
                    rw [behind, Option.isSome_none] at dash
                    simpa [column, ← dash] using here _
                | some item =>
                    rw [behind, Option.isSome_some] at dash
                    rw [sequenceBehind, if_neg (Nat.lt_irrefl _), behind] at level
                    simpa [column, ← dash] using shows_from s s.settled _ _ (kept_settled s) level
              · simpa [column] using here _
      · exact scalar_scanned _ parent s

end

/-! ## Scanning a document -/

-- That a scan of a block ends as a reading does: with the same fault, or with the same value at the same place, which is further
-- on than the line that the block starts with, and with no line changed from there on.
def Progresses (s : Scanner) (scan : Scan) : Reading → Prop
  | .error fault => scan = some (.error fault)
  | .ok (value, place) => ∃ after, scan = some (.ok (value, after)) ∧ after.cursor = place ∧
      s.settled.position < after.position ∧ after.lines.length = s.lines.length ∧
      ∀ index, after.position ≤ index → after.lines[index]? = s.lines[index]?

theorem kept_lines (before after : Scanner) (kept : Kept before after) (index : Nat) (later : after.position ≤ index) :
    after.lines[index]? = before.lines[index]? := by
  have same : (after.lines.drop after.position)[index - after.position]? = (before.lines.drop after.position)[index - after.position]? :=
    congrArg (·[index - after.position]?) kept.lines
  rwa [List.getElem?_drop, List.getElem?_drop, Nat.add_sub_cancel' later] at same

theorem block_progresses (fuel : Nat) (s : Scanner) (line : Line) (rest : List Line) (seen : s.settled.ahead = line :: rest)
    (enough : 4 * weightOf (line :: rest) + 1 < fuel) :
    Progresses s (scanBlock fuel line.indent s) (blockReading (s.settled.position + 1) line rest) := by
  have scanned := block_scanned fuel s line rest seen enough
  have number : s.settled.cursor.number = s.settled.position + 1 := rfl
  rw [number] at scanned
  cases found : blockReading (s.settled.position + 1) line rest with
  | error fault =>
      rw [found] at scanned
      exact scanned
  | ok read =>
      rw [found] at scanned
      obtain ⟨after, scan, place, kept⟩ := scanned
      have later := block_ahead s after _ line rest read.1 seen kept (by rw [place, found])
      exact ⟨after, scan, place, later, kept.count, kept_lines s after kept⟩

theorem shows_finished (s : Scanner) (scan : Scan) (reading : Reading) (next : Value → Scanner → Option (Except Fault Value))
    (following : Value × Cursor → Except Fault Value) (shown : Shows s scan reading)
    (then_on : ∀ value after, Kept s after → reading = .ok (value, after.cursor) →
      next value after = some (following (value, after.cursor))) : onward scan next = some (reading.bind following) := by
  cases reading with
  | error fault =>
      rw [Shows] at shown
      rw [shown]
      rfl
  | ok found =>
      obtain ⟨after, rfl, place, kept⟩ := shown
      have last := then_on found.1 after kept (by rw [place])
      rw [place] at last
      exact last

theorem more_scanned (fuel : Nat) (value : Value) (s : Scanner) (enough : 4 * weightOf s.ahead + 2 < fuel) :
    scanMore fuel value s = some (readMore value s.cursor) := by
  induction fuel generalizing value s with
  | zero => omega
  | succ fuel ih =>
      have lighter := kept_weight s s.settled (kept_settled s)
      rw [more_reading, ← settled_cursor, scanMore]
      cases seen : s.settled.ahead with
      | nil => rw [cursor_of s.settled [] seen]
      | cons line rest =>
          have positive := weight_pos line
          rw [seen] at lighter
          have scanned := block_scanned fuel s.settled line rest (by rw [settled_twice, seen]) (by omega)
          rw [settled_twice, cursor_of s.settled _ seen] at scanned
          rw [cursor_of s.settled _ seen]
          refine shows_finished s.settled _ _ _ _ scanned fun more after _ found => ?_
          have left : weightOf after.ahead ≤ weightOf rest := weightOf_suffix (placed_suffix _ _ _ found)
          rw [weightOf_cons] at lighter
          cases joined? value more with
          | none => rfl
          | some whole => exact ih whole after (by omega)

theorem document_scanned (fuel : Nat) (lines : List Line) (enough : 4 * weightOf lines + 2 < fuel) :
    scanDocument fuel lines = some (readLines lines) := by
  let s : Scanner := ⟨lines, 0⟩
  have lighter : weightOf s.settled.ahead ≤ weightOf lines := kept_weight s s.settled (kept_settled s)
  have first : settle 1 lines = s.settled.cursor := (settled_cursor s).symm
  rw [lines_reading, first, scanDocument]
  cases seen : s.settled.ahead with
  | nil =>
      rw [cursor_of s.settled [] seen]
  | cons line rest =>
      rw [seen] at lighter
      have scanned := block_scanned fuel s.settled line rest (by rw [settled_twice, seen]) (by omega)
      rw [settled_twice, cursor_of s.settled _ seen] at scanned
      rw [cursor_of s.settled _ seen]
      simp only [s] at scanned ⊢
      refine shows_finished s.settled _ _ _ _ scanned fun value after _ found => ?_
      have left : weightOf after.ahead ≤ weightOf rest := weightOf_suffix (placed_suffix _ _ _ found)
      rw [weightOf_cons] at lighter
      exact more_scanned fuel value after (by omega)

-- Four times the weight of the lines, one for every character and one for every line, is more fuel than nested calls take.
theorem scanner_progresses :
    (∀ (fuel : Nat) (s : Scanner) (line : Line) (rest : List Line), s.settled.ahead = line :: rest →
      4 * weightOf (line :: rest) + 1 < fuel →
      Progresses s (scanBlock fuel line.indent s) (blockReading (s.settled.position + 1) line rest)) ∧
    ∀ (fuel : Nat) (text : List Char), 4 * weightOf (linesOf text) + 2 < fuel →
      scanDocument fuel (linesOf text) = some (readLines (linesOf text)) :=
  ⟨block_progresses, fun fuel text => document_scanned fuel (linesOf text)⟩

def nestedItem : Scanner :=
  ⟨linesOf "# list\n- - a:\n    b:\nc:".toList, 0⟩

-- At the end of the list its line says `a:` in the column of the inner item, and it is the only one that was changed.
theorem scanner_progresses_nested :
    let line : Line := ⟨0, "- - a:".toList⟩
    let rest := [⟨4, "b:".toList⟩, ⟨0, "c:".toList⟩]
    let text := "# list\n- - a:\n    b:\nc:".toList
    (nestedItem.settled.ahead = line :: rest ∧ 4 * weightOf (line :: rest) + 1 < 60 ∧
      Progresses nestedItem (scanBlock 60 0 nestedItem) (blockReading 2 line rest)) ∧
    4 * weightOf (linesOf text) + 2 < 100 ∧ scanDocument 100 (linesOf text) = some (readLines (linesOf text)) := by
  intro line rest text
  have seen : nestedItem.settled.ahead = line :: rest := by decide +kernel
  have enough : 4 * weightOf (line :: rest) + 1 < 60 := by decide
  have whole : 4 * weightOf (linesOf text) + 2 < 100 := by decide +kernel
  exact ⟨⟨seen, enough, scanner_progresses.1 60 nestedItem line rest seen enough⟩, whole, scanner_progresses.2 100 text whole⟩

example : ((scanBlock 60 0 nestedItem).bind fun scanned => (scanned.map fun found => found.2.lines).toOption) =
    some (linesOf "# list\n    a:\n    b:\nc:".toList) := by decide +kernel

end Scanner

end Document

end PipelineLint
