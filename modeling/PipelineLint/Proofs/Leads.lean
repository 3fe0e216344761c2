import PipelineLint.Proofs.Stretches

set_option autoImplicit false

namespace PipelineLint.Repair

-- What stands at the start of a line: nothing that counts, a marker, a dash alone, or maybe a dash and then an entry.
inductive Lead where
  | silent
  | marker
  | dash (indent : Nat)
  | entry (dash : Option Nat) (column : Nat)

def leadOf (line : List Char) : Lead :=
  let content := Text.trim line
  let indent := indentOf line
  if content = [] || content.head? = some '#' then .silent
  else if indent = 0 && Document.isMarker content then .marker
  else
    match dashWidth? (line.drop indent) with
    | some width => if inkEnd line ≤ indent + width then .dash indent else .entry (some indent) (indent + width)
    | none => .entry none indent

def levelsBelow (dash : Option Nat) (levels : List (Nat × Level)) : List (Nat × Level) :=
  match dash with
  | some indent => (indent, .item) :: aboveItem indent levels
  | none => levels

theorem visit_line_lead (levels : List (Nat × Level)) (index : Nat) (line : List Char) :
    visitLine levels index line =
      match leadOf line with
      | .silent => (⟨levels, none⟩, {})
      | .marker => ({}, {})
      | .dash indent => (⟨levelsBelow (some indent) levels, none⟩, {})
      | .entry dash column => visitEntry (levelsBelow dash levels) index line column := by
  unfold visitLine leadOf
  simp only
  split
  · rfl
  · split
    · rfl
    · cases dashWidth? (line.drop (indentOf line)) with
      | none => rfl
      | some width =>
          simp only
          split <;> rfl

theorem indent_before (before rest : List Char) (c : Char) (starts : Text.isNameStart c = true) :
    indentOf (before ++ c :: rest) = (before.takeWhile (· = ' ')).length := by
  have differs := Text.name_start_ne c ' ' starts (by decide)
  unfold indentOf
  rw [(Text.run_before _ before rest c (by simp [differs])).1]

theorem ink_end_before (before rest : List Char) (c : Char) (starts : Text.isNameStart c = true) :
    before.length < inkEnd (before ++ c :: rest) := by
  have visible := Text.word_not_blank c (Text.isWord_of_isNameStart starts)
  have ink : Text.trimRight (c :: rest) ≠ [] := by
    intro blank
    have all := (Text.dropTrailing_eq_nil_iff _ _).mp blank
    simp [visible] at all
  rw [ink_end_append before _ ink]
  exact Nat.lt_add_of_pos_right (List.length_pos_iff.mpr ink)

theorem trim_before (before rest : List Char) (c : Char) (starts : Text.isNameStart c = true) :
    ∃ kept, Text.trim (before ++ c :: rest) = Text.trimLeft before ++ c :: kept := by
  have visible := Text.word_not_blank c (Text.isWord_of_isNameStart starts)
  obtain ⟨dropped, split, -⟩ := Text.dropTrailing_append_dropped Text.isBlank (c :: rest)
  cases trimmed : Text.dropTrailing Text.isBlank (c :: rest) with
  | nil =>
      have all := (Text.dropTrailing_eq_nil_iff _ _).mp trimmed
      simp [visible] at all
  | cons d kept =>
      rw [trimmed] at split
      obtain ⟨rfl, -⟩ := List.cons.inj split
      refine ⟨kept, ?_⟩
      unfold Text.trim Text.trimLeft
      rw [(Text.run_before Text.isBlank before rest c visible).2, Text.trim_right_append _ _ (by simp [Text.trimRight, trimmed])]
      rw [Text.trimRight, trimmed]

theorem dash_width_before (text rest other : List Char) (c d : Char) (starts : Text.isNameStart c = true)
    (also : Text.isNameStart d = true) :
    dashWidth? (text ++ c :: rest) = dashWidth? (text ++ d :: other) ∧
      ∀ width, dashWidth? (text ++ c :: rest) = some width → width ≤ text.length := by
  have c_dash := Text.name_start_ne c '-' starts (by decide)
  have d_dash := Text.name_start_ne d '-' also (by decide)
  have c_space := Text.name_start_ne c ' ' starts (by decide)
  have d_space := Text.name_start_ne d ' ' also (by decide)
  match text with
  | [] => simp [dashWidth?, c_dash, d_dash]
  | [first] => simp [dashWidth?, c_space, d_space]
  | first :: second :: text =>
      have c_run := (Text.run_before (fun e => decide (e = ' ')) text rest c (by simp [c_space])).1
      have d_run := (Text.run_before (fun e => decide (e = ' ')) text other d (by simp [d_space])).1
      have short := (List.takeWhile_sublist (l := text) fun e => decide (e = ' ')).length_le
      simp only [List.cons_append]
      unfold dashWidth?
      split
      · simp_all
      · simp_all
        omega
      · simp_all

theorem marker_before (text rest other : List Char) (c d : Char) (starts : Text.isNameStart c = true)
    (also : Text.isNameStart d = true) : Document.isMarker (text ++ c :: rest) = Document.isMarker (text ++ d :: other) := by
  have c_blank := Text.word_not_blank c (Text.isWord_of_isNameStart starts)
  have d_blank := Text.word_not_blank d (Text.isWord_of_isNameStart also)
  have c_dash := beq_false_of_ne (Text.name_start_ne c '-' starts (by decide)).symm
  have d_dash := beq_false_of_ne (Text.name_start_ne d '-' also (by decide)).symm
  have c_point := beq_false_of_ne (Text.name_start_ne c '.' starts (by decide)).symm
  have d_point := beq_false_of_ne (Text.name_start_ne d '.' also (by decide)).symm
  unfold Document.isMarker Document.startsMark
  match text with
  | [] => simp [List.isPrefixOf, c_dash, d_dash, c_point, d_point]
  | [_] => simp [List.isPrefixOf, c_dash, d_dash, c_point, d_point]
  | [_, _] => simp [List.isPrefixOf, c_dash, d_dash, c_point, d_point]
  | [_, _, _] => simp [List.isPrefixOf, c_blank, d_blank]
  | _ :: _ :: _ :: _ :: _ => simp [List.isPrefixOf]

theorem lead_before (before rest other : List Char) (c d : Char) (starts : Text.isNameStart c = true)
    (also : Text.isNameStart d = true) :
    leadOf (before ++ c :: rest) = leadOf (before ++ d :: other) ∧
      ∀ dash column, leadOf (before ++ c :: rest) = .entry dash column → column ≤ before.length := by
  obtain ⟨kept, trimmed⟩ := trim_before before rest c starts
  obtain ⟨left, also_trimmed⟩ := trim_before before other d also
  have c_mark := Text.name_start_ne c '#' starts (by decide)
  have d_mark := Text.name_start_ne d '#' also (by decide)
  have silent :
      (decide (Text.trimLeft before ++ c :: kept = []) ||
          decide ((Text.trimLeft before ++ c :: kept).head? = some '#')) =
        (decide (Text.trimLeft before ++ d :: left = []) ||
          decide ((Text.trimLeft before ++ d :: left).head? = some '#')) := by
    cases Text.trimLeft before with
    | nil => simp [c_mark, d_mark]
    | cons e trimmed => simp
  have short := (List.takeWhile_sublist (l := before) fun e => decide (e = ' ')).length_le
  have c_drop : (before ++ c :: rest).drop (before.takeWhile fun e => decide (e = ' ')).length =
      before.drop (before.takeWhile fun e => decide (e = ' ')).length ++ c :: rest :=
    List.drop_append_of_le_length short
  have d_drop : (before ++ d :: other).drop (before.takeWhile fun e => decide (e = ' ')).length =
      before.drop (before.takeWhile fun e => decide (e = ' ')).length ++ d :: other :=
    List.drop_append_of_le_length short
  obtain ⟨width, wide⟩ := dash_width_before (before.drop (before.takeWhile fun e => decide (e = ' ')).length) rest
    other c d starts also
  have c_ink := ink_end_before before rest c starts
  have d_ink := ink_end_before before other d also
  rw [List.length_drop] at wide
  unfold leadOf
  simp only
  rw [trimmed, also_trimmed, indent_before before rest c starts, indent_before before other d also, silent,
    marker_before (Text.trimLeft before) kept left c d starts also, c_drop, d_drop, width]
  rw [width] at wide
  split
  · exact ⟨rfl, by simp⟩
  · split
    · exact ⟨rfl, by simp⟩
    · cases found : dashWidth? (before.drop (before.takeWhile fun e => decide (e = ' ')).length ++ d :: other) with
      | none => exact ⟨rfl, by simp only [Lead.entry.injEq]; rintro _ _ ⟨-, rfl⟩; exact short⟩
      | some w =>
          have bound := wide w found
          simp only
          rw [if_neg (by omega), if_neg (by omega)]
          refine ⟨rfl, ?_⟩
          simp only [Lead.entry.injEq]
          rintro _ _ ⟨-, rfl⟩
          omega

end PipelineLint.Repair
