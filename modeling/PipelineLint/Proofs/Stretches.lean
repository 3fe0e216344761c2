import PipelineLint.Proofs.Calls
import PipelineLint.Proofs.Interpolations

set_option autoImplicit false

namespace PipelineLint.Repair

open Expression

theorem call_tail_ink (tail : List Char) (behind : CallTail tail) : Text.trimRight tail ≠ [] := by
  intro blank
  have all := (Text.dropTrailing_eq_nil_iff _ _).mp blank
  exact absurd (List.all_eq_true.mp all '(' behind.bracket) (by decide)

theorem ink_end_append (text tail : List Char) (ink : Text.trimRight tail ≠ []) :
    inkEnd (text ++ tail) = text.length + inkEnd tail := by
  unfold inkEnd
  rw [Text.trim_right_append text tail ink, List.length_append]

theorem call_tail_append (tail rest : List Char) (behind : CallTail tail) : CallTail (tail ++ rest) := by
  obtain ⟨ends, no_key, bracket⟩ := behind
  cases tail with
  | nil => cases bracket
  | cons c tail =>
      refine ⟨ends, ?_, List.mem_append_left _ bracket⟩
      obtain ⟨-, dropped⟩ := Text.run_append isGap (c :: tail) rest '(' bracket (by decide)
      obtain ⟨first, later, left, -⟩ := Text.run_stops isGap (c :: tail) '(' bracket (by decide)
      rw [dropped, left]
      rw [left] at no_key
      exact no_key

def callsIn (kind : CallKind) (stretches : List Stretch) (line : List Char) : List CallPlace :=
  stretches.flatMap fun stretch => stretch.calls kind line

def placed (index start : Nat) (site : CallSite) : CallPlace :=
  ⟨index, start + site.start, start + site.stop, String.ofList site.name⟩

theorem stretch_calls (stretch : Stretch) (kind : CallKind) (line : List Char) :
    stretch.calls kind line = (callsOf kind (stretch.text line)).map (placed stretch.line stretch.start) := by
  unfold Stretch.calls
  rw [calls_of_kind]
  rfl

theorem calls_in_one (kind : CallKind) (stretch : Stretch) (line : List Char) :
    callsIn kind [stretch] line = (callsOf kind (stretch.text line)).map (placed stretch.line stretch.start) := by
  rw [← stretch_calls]
  exact List.append_nil _

structure CallAt (line : List Char) (call : CallPlace) (before name tail : List Char) : Prop where
  split : line = before ++ (name ++ tail)
  start : call.start = before.length
  stop : call.stop = before.length + name.length
  identifier : Text.isIdentifier name = true
  behind : CallTail tail

-- The calls of a line with another name in place of that of one call: those in front of it are kept, and those behind it and
-- those of the other kind keep their names.
structure Swapped (kind : CallKind) (old new : CallKind → List CallPlace) (front : List CallPlace) (call : CallPlace)
    (other : String) (back : List CallPlace) : Prop where
  same_kind : ∃ later, new kind = front ++ ⟨call.line, call.start, call.start + other.length, other⟩ :: later ∧
    later.map CallPlace.name = back.map CallPlace.name
  other_kind : ∀ another, another ≠ kind → (new another).map CallPlace.name = (old another).map CallPlace.name

theorem placed_names (index start : Nat) (sites : List CallSite) :
    (sites.map (placed index start)).map CallPlace.name = (sites.map CallSite.name).map String.ofList := by
  simp [placed]

theorem range_text (index start stop : Nat) (pre text rest : List Char) (first : start = pre.length)
    (last : stop = pre.length + text.length) : Stretch.text ⟨index, start, stop⟩ (pre ++ (text ++ rest)) = text := by
  unfold Stretch.text
  rw [first, last, ← List.append_assoc, ← List.length_append, List.take_left', List.drop_left']
  · rfl
  · rfl

theorem range_renamed (index start stop : Nat) (line : List Char) (kind : CallKind) (front back : List CallPlace)
    (call : CallPlace) (other : String) (inside : stop ≤ line.length) (callable : IsCallable kind other.toList)
    (found : callsIn kind [⟨index, start, stop⟩] line = front ++ call :: back) :
    ∃ before name tail reach, CallAt line call before name tail ∧ call.line = index ∧ start ≤ before.length ∧
      stop = before.length + name.length + reach ∧
      Swapped kind (fun kind => callsIn kind [⟨index, start, stop⟩] line)
        (fun kind => callsIn kind [⟨index, start, before.length + other.length + reach⟩] (before ++ (other.toList ++ tail)))
        front call other back := by
  rw [calls_in_one] at found
  obtain ⟨sites, rest, whole, rfl, tailed⟩ := List.map_eq_append_iff.mp found
  obtain ⟨site, others, rfl, rfl, rfl⟩ := List.map_eq_cons_iff.mp tailed
  obtain ⟨bare, behind, text, first, identifier, tail, ⟨later, renamed, names⟩, kinds⟩ :=
    calls_renamed kind _ other.toList sites others site whole callable
  have lengths : (Stretch.text ⟨index, start, stop⟩ line).length = stop - start := by
    simp [Stretch.text, Nat.min_eq_left inside]
  have inked : 0 < site.name.length := by
    obtain ⟨c, letters, named, -⟩ := Text.identifier_cases site.name identifier
    rw [named]
    exact Nat.zero_lt_succ _
  rw [text, List.length_append, List.length_append] at lengths
  have column : (line.take start).length = start := by
    rw [List.length_take]
    omega
  have split : line = line.take start ++ (Stretch.text ⟨index, start, stop⟩ line ++ line.drop stop) := by
    have front := List.take_append_drop start (line.take stop)
    rw [List.take_take, Nat.min_eq_left (by omega)] at front
    rw [← List.append_assoc]
    unfold Stretch.text
    rw [front, List.take_append_drop]
  rw [text] at split
  refine ⟨line.take start ++ bare, site.name, behind ++ line.drop stop, behind.length,
    ⟨?_, ?_, ?_, identifier, ?_⟩, rfl, ?_, ?_, ?_⟩
  · simpa using split
  · rw [List.length_append, column, ← first]
    rfl
  · rw [List.length_append, column, ← first, Nat.add_assoc]
    rfl
  · exact call_tail_append behind _ tail
  · rw [List.length_append, column]
    exact Nat.le_add_right _ _
  · rw [List.length_append, column]
    omega
  · have place : (line.take start ++ bare).length = start + bare.length := by
      rw [List.length_append, column]
    have shown : Stretch.text ⟨index, start, start + bare.length + other.length + behind.length⟩
        (line.take start ++ bare ++ (other.toList ++ (behind ++ line.drop stop))) = bare ++ (other.toList ++ behind) := by
      have range := range_text index start (start + bare.length + other.length + behind.length) (line.take start)
        (bare ++ (other.toList ++ behind)) (line.drop stop) column.symm
        (by simp only [column, List.length_append, String.length_toList]; omega)
      rw [← range]
      simp
    rw [place]
    constructor
    · refine ⟨later.map (placed index start), ?_, ?_⟩
      · simp only [calls_in_one]
        rw [shown, renamed]
        simp [placed, CallSite.stop, Nat.add_assoc, String.length_toList, String.ofList_toList]
      · rw [placed_names, placed_names, names]
    · intro another differs
      simp only [calls_in_one]
      rw [shown, placed_names, placed_names, kinds another differs]

def spanCalls (kind : CallKind) (index column : Nat) (span : Interpolation) : List CallPlace :=
  (callsOf kind span.body).map (placed index (column + span.start))

theorem calls_in_interpolated (kind : CallKind) (index column : Nat) (line : List Char) :
    callsIn kind (interpolated index line column) line =
      (interpolations (line.drop column)).flatMap (spanCalls kind index column) := by
  unfold callsIn interpolated
  rw [List.flatMap_map, List.flatMap_def, List.flatMap_def]
  congr 1
  refine List.map_congr_left fun span member => ?_
  obtain ⟨head, rest, text, start⟩ := interpolation_place 0 _ span member
  have inside : (line.take column).length = column ∨ line.drop column = [] := by
    rcases Nat.le_total column line.length with short | long
    · exact .inl (by rw [List.length_take, Nat.min_eq_left short])
    · exact .inr (List.drop_eq_nil_of_le long)
  rcases inside with inside | empty
  · have split : line = (line.take column ++ head) ++ (span.body ++ rest) := by
      rw [List.append_assoc, ← text, List.take_append_drop]
    have shown := range_text index (column + span.start) (column + span.stop) (line.take column ++ head) span.body rest
      (by rw [start, List.length_append, inside]; omega)
      (by rw [Interpolation.stop, start, List.length_append, inside]; omega)
    rw [← split] at shown
    rw [stretch_calls, shown]
    rfl
  · rw [empty] at member
    exact absurd member (by simp [interpolations, interpolationsFrom])

theorem span_names (kind : CallKind) (index column : Nat) (spans others : List Interpolation)
    (bodies : spans.map Interpolation.body = others.map Interpolation.body) :
    (spans.flatMap (spanCalls kind index column)).map CallPlace.name =
      (others.flatMap (spanCalls kind index column)).map CallPlace.name := by
  have by_bodies (list : List Interpolation) : (list.flatMap (spanCalls kind index column)).map CallPlace.name =
      (list.map Interpolation.body).flatMap fun body => (callsOf kind body).map fun site => String.ofList site.name := by
    rw [List.map_flatMap, List.flatMap_map, List.flatMap_def, List.flatMap_def]
    congr 1
    refine List.map_congr_left fun span _ => ?_
    simp [spanCalls, placed]
  rw [by_bodies, by_bodies, bodies]

theorem interpolated_renamed (index column : Nat) (line : List Char) (kind : CallKind) (front back : List CallPlace)
    (call : CallPlace) (other : String) (callable : IsCallable kind other.toList)
    (found : callsIn kind (interpolated index line column) line = front ++ call :: back) :
    ∃ before name tail, CallAt line call before name tail ∧ call.line = index ∧
      Swapped kind (fun kind => callsIn kind (interpolated index line column) line)
        (fun kind => callsIn kind (interpolated index (before ++ (other.toList ++ tail)) column)
          (before ++ (other.toList ++ tail))) front call other back := by
  rw [calls_in_interpolated] at found
  obtain ⟨earlier, span, after, first, last, spans, here, rfl, rfl⟩ := flat_map_split _ _ front back call found
  obtain ⟨sites, rest, whole, rfl, tailed⟩ := List.map_eq_append_iff.mp here
  obtain ⟨site, others, rfl, rfl, rfl⟩ := List.map_eq_cons_iff.mp tailed
  obtain ⟨bare, behind, body, start, identifier, tail, ⟨later, renamed, names⟩, kinds⟩ :=
    calls_renamed kind span.body other.toList sites others site whole callable
  obtain ⟨lead, closed, text, place, spans_later, same, bodies⟩ :=
    interpolations_renamed 0 _ bare site.name other.toList behind earlier after span spans body identifier callable.1
  have column_inside : (line.take column).length = column := by
    rcases Nat.le_total column line.length with short | long
    · rw [List.length_take, Nat.min_eq_left short]
    · rw [List.drop_eq_nil_of_le long] at text
      simp [opener] at text
  refine ⟨line.take column ++ (lead ++ (opener ++ bare)), site.name, behind ++ '\x7d' :: closed,
    ⟨?_, ?_, ?_, identifier, ?_⟩, rfl, ?_⟩
  · exact (List.take_append_drop column line).symm.trans (by rw [text]; simp)
  · show column + span.start + site.start = _
    rw [place, start]
    simp only [List.length_append, column_inside]
    omega
  · show column + span.start + (site.start + site.name.length) = _
    rw [place, start]
    simp only [List.length_append, column_inside]
    omega
  · exact call_tail_append behind _ tail
  · have dropped :
        (line.take column ++ (lead ++ (opener ++ bare)) ++ (other.toList ++ (behind ++ '\x7d' :: closed))).drop column =
          lead ++ (opener ++ (bare ++ (other.toList ++ behind) ++ '\x7d' :: closed)) := by
      rw [List.append_assoc, List.drop_left' column_inside]
      simp
    constructor
    · refine ⟨later.map (placed index (column + span.start)) ++ spans_later.flatMap (spanCalls kind index column), ?_, ?_⟩
      · simp only [calls_in_interpolated]
        rw [dropped, interpolations, same, List.flatMap_append, List.flatMap_cons, spanCalls, renamed]
        simp [placed, CallSite.stop, Nat.add_assoc, String.length_toList, String.ofList_toList]
      · rw [List.map_append, List.map_append, span_names kind index column spans_later after bodies, placed_names,
          placed_names, names]
    · intro another differs
      simp only [calls_in_interpolated]
      rw [dropped, interpolations, same, spans]
      simp only [List.flatMap_append, List.flatMap_cons, List.map_append]
      rw [span_names another index column spans_later after bodies]
      unfold spanCalls
      rw [placed_names, placed_names, kinds another differs]

-- What a line holds from a column on: an expression up to its end, one that may be quoted, or interpolations.
inductive Form where
  | bare
  | scalar
  | interpolated

def Form.stretches (form : Form) (index : Nat) (line : List Char) (start : Nat) : List Stretch :=
  match form with
  | .bare => [⟨index, start, inkEnd line⟩]
  | .scalar => [scalarStretch index line start]
  | .interpolated => Repair.interpolated index line start

theorem scalar_stretch_around (index start : Nat) (before tail : List Char) (behind : CallTail tail)
    (first : start ≤ before.length) :
    ∃ opens reach, ∀ name, Text.isIdentifier name = true →
      scalarStretch index (before ++ (name ++ tail)) start = ⟨index, opens, before.length + name.length + reach⟩ := by
  have ink := call_tail_ink tail behind
  have reaches : 0 < inkEnd tail := List.length_pos_iff.mpr ink
  have parts (name : List Char) (identifier : Text.isIdentifier name = true) :
      inkEnd (before ++ (name ++ tail)) = before.length + name.length + inkEnd tail ∧
        start + 2 ≤ before.length + name.length + inkEnd tail ∧
        ((before ++ (name ++ tail)).drop (before.length + name.length + inkEnd tail - 1)).head? =
          (tail.drop (inkEnd tail - 1)).head? ∧
        ((before ++ (name ++ tail)).drop start).head? = ((before.drop start) ++ name).head? := by
    obtain ⟨c, letters, rfl, -⟩ := Text.identifier_cases name identifier
    refine ⟨?_, ?_, ?_, ?_⟩
    · rw [← List.append_assoc, ink_end_append _ tail ink, List.length_append]
    · simp only [List.length_cons]
      omega
    · have place : before.length + (c :: letters).length + inkEnd tail - 1 =
          (before ++ (c :: letters)).length + (inkEnd tail - 1) := by
        rw [List.length_append]
        omega
      rw [place, ← List.append_assoc, List.drop_length_add_append]
    · rw [List.drop_append_of_le_length first]
      cases before.drop start <;> rfl
  by_cases quoted : ∃ quote, (before.drop start).head? = some quote ∧ (quote = '\'' ∨ quote = '"') ∧
      (tail.drop (inkEnd tail - 1)).head? = some quote
  · obtain ⟨quote, opening, kind, closing⟩ := quoted
    refine ⟨start + 1, inkEnd tail - 1, fun name identifier => ?_⟩
    obtain ⟨stop, wide, last, head⟩ := parts name identifier
    unfold scalarStretch
    simp only
    obtain ⟨rest, opened⟩ := List.head?_eq_some_iff.mp opening
    rw [stop, last, head, closing, opened, List.cons_append, List.head?_cons, if_pos]
    · congr 1
      omega
    · rcases kind with rfl | rfl <;> simp [wide]
  · refine ⟨start, inkEnd tail, fun name identifier => ?_⟩
    obtain ⟨stop, wide, last, head⟩ := parts name identifier
    unfold scalarStretch
    simp only
    rw [stop, last, head, if_neg]
    intro holds
    simp only [Bool.and_eq_true, Bool.or_eq_true, decide_eq_true_eq] at holds
    obtain ⟨⟨-, kind⟩, same⟩ := holds
    cases opened : before.drop start with
    | nil =>
        obtain ⟨c, letters, rfl, starts, -⟩ := Text.identifier_cases name identifier
        rw [opened] at kind
        rcases kind with quote | quote <;> rw [Option.some.inj quote] at starts <;> cases starts
    | cons quote rest =>
        rw [opened] at kind same
        exact quoted ⟨quote, by rw [opened]; rfl, by simpa using kind, same⟩

theorem ink_end_le (line : List Char) : inkEnd line ≤ line.length :=
  Text.length_dropTrailing_le _ line

theorem scalar_stretch_inside (index start : Nat) (line : List Char) :
    ∃ opens stop, scalarStretch index line start = ⟨index, opens, stop⟩ ∧ start ≤ opens ∧ stop ≤ line.length := by
  have inside := ink_end_le line
  unfold scalarStretch
  simp only
  split
  · exact ⟨start + 1, inkEnd line - 1, rfl, by omega, by omega⟩
  · exact ⟨start, inkEnd line, rfl, by omega, inside⟩

theorem stretches_renamed (form : Form) (index start : Nat) (line : List Char) (kind : CallKind)
    (front back : List CallPlace) (call : CallPlace) (other : String) (callable : IsCallable kind other.toList)
    (found : callsIn kind (form.stretches index line start) line = front ++ call :: back) :
    ∃ before name tail, CallAt line call before name tail ∧ call.line = index ∧
      Swapped kind (fun kind => callsIn kind (form.stretches index line start) line)
        (fun kind => callsIn kind (form.stretches index (before ++ (other.toList ++ tail)) start)
          (before ++ (other.toList ++ tail))) front call other back := by
  cases form with
  | bare =>
      obtain ⟨before, name, tail, reach, around, place, -, stop, swapped⟩ :=
        range_renamed index start (inkEnd line) line kind front back call other (ink_end_le line) callable found
      have ink := call_tail_ink tail around.behind
      rw [around.split, ← List.append_assoc, ink_end_append _ tail ink, List.length_append] at stop
      have again : inkEnd (before ++ (other.toList ++ tail)) = before.length + other.length + reach := by
        rw [← List.append_assoc, ink_end_append _ tail ink, List.length_append, String.length_toList]
        omega
      refine ⟨before, name, tail, around, place, ?_⟩
      simp only [Form.stretches, again]
      exact swapped
  | scalar =>
      obtain ⟨opens, stop, scalar, behind, inside⟩ := scalar_stretch_inside index start line
      simp only [Form.stretches, scalar] at found ⊢
      obtain ⟨before, name, tail, reach, around, place, first, reaches, swapped⟩ :=
        range_renamed index opens stop line kind front back call other inside callable found
      obtain ⟨left, right, stretch⟩ :=
        scalar_stretch_around index start before tail around.behind (Nat.le_trans behind first)
      have same := stretch name around.identifier
      rw [← around.split, scalar, Stretch.mk.injEq] at same
      have again := stretch other.toList callable.1
      have right_same : reach = right := by omega
      rw [← same.2.1, ← right_same, String.length_toList] at again
      refine ⟨before, name, tail, around, place, ?_⟩
      simp only [again]
      exact swapped
  | interpolated => exact interpolated_renamed index start line kind front back call other callable found

end PipelineLint.Repair
