import PipelineLint.Proofs.Convergence
import PipelineLint.Proofs.WholeNames
import PipelineLint.Proofs.WrittenText

set_option autoImplicit false

namespace PipelineLint

namespace Expression

theorem take_expression_return (text : List Char) :
    takeExpression? 0 false (text ++ ['\r']) =
      (takeExpression? 0 false text).map fun (body, after) => (body, after ++ ['\r']) := by
  cases closed : takeExpression? 0 false text with
  | some parts =>
      obtain ⟨body, after⟩ := parts
      obtain ⟨reads, rfl⟩ := take_expression_body 0 false text body after closed
      rw [List.append_assoc, List.cons_append, body_taken 0 false body (after ++ ['\r']) reads]
      rfl
  | none =>
      cases longer : takeExpression? 0 false (text ++ ['\r']) with
      | none => rfl
      | some parts =>
          obtain ⟨body, after⟩ := parts
          obtain ⟨reads, split⟩ := take_expression_body 0 false _ body after longer
          rcases List.eq_nil_or_concat after with rfl | ⟨front, last, rfl⟩
          · have ends := congrArg List.getLast? split
            simp at ends
          · rw [List.concat_eq_append, ← List.cons_append, ← List.append_assoc] at split
            obtain ⟨rfl, -⟩ := List.append_inj' split rfl
            rw [body_taken 0 false body front reads] at closed
            cases closed

theorem interpolations_return (offset : Nat) (text : List Char) :
    interpolationsFrom offset (text ++ ['\r']) = interpolationsFrom offset text := by
  fun_induction interpolationsFrom offset text with
  | case1 offset rest body after taken ih =>
      obtain ⟨reads, rfl⟩ := take_expression_body 0 false rest body after taken
      have opened := interpolations_open offset body (after ++ ['\r']) reads
      rw [ih] at opened
      simpa [opener] using opened
  | case2 offset rest taken =>
      have longer := take_expression_return rest
      rw [taken] at longer
      exact interpolations_unclosed offset _ longer
  | case3 offset c rest plain ih =>
      rw [List.cons_append, interpolations_other offset c _ ?_, ih]
      intro later whole
      obtain ⟨dollar, behind⟩ := List.cons.inj whole
      rcases rest with _ | ⟨first, _ | ⟨second, rest⟩⟩
      · simp at behind
      · simp at behind
      · simp only [List.cons_append, List.cons.injEq] at behind
        obtain ⟨rfl, rfl, -⟩ := behind
        exact plain _ dollar rfl
  | case4 offset =>
      rw [List.nil_append, interpolations_other offset '\r' [] (by simp), interpolationsFrom]

end Expression

theorem Text.trim_return (text : List Char) : trim (text ++ ['\r']) = trim text := by
  have cut := Document.trim_right_blanks (trimLeft text) ['\r'] rfl
  unfold trim
  unfold trimLeft at cut ⊢
  rw [List.dropWhile_append]
  split
  · rename_i nothing
    rw [List.isEmpty_iff.mp nothing]
    rfl
  · exact cut

theorem Text.all_blank_return (text : List Char) : allBlank (text ++ ['\r']) = allBlank text := by
  simp [allBlank, show isBlank '\r' = true from rfl]

namespace Repair

theorem indent_return (line : List Char) : indentOf (line ++ ['\r']) = indentOf line := by
  unfold indentOf
  rw [(Text.run_before _ line [] '\r' rfl).1]

theorem ink_end_return (line : List Char) : inkEnd (line ++ ['\r']) = inkEnd line := by
  unfold inkEnd
  rw [Document.trim_right_blanks line ['\r'] rfl]

theorem indent_inside (line : List Char) : indentOf line ≤ line.length :=
  (List.takeWhile_sublist _).length_le

theorem dash_width_return (text : List Char) (not_alone : text ≠ ['-']) : dashWidth? (text ++ ['\r']) = dashWidth? text := by
  match text with
  | [] => rfl
  | [c] =>
      have other : c ≠ '-' := fun dash => not_alone (by rw [dash])
      simp [dashWidth?, other]
  | c :: d :: rest =>
      by_cases item : c = '-' ∧ d = ' '
      · obtain ⟨rfl, rfl⟩ := item
        have run := (Text.run_before (· = ' ') rest [] '\r' (by decide)).1
        simp only [List.cons_append, dashWidth?, run]
      · have none_here : ∀ behind, dashWidth? (c :: d :: behind) = none := by
          intro behind
          unfold dashWidth?
          split
          · rename_i alone
            cases alone
          · rename_i later same
            cases same
            exact absurd ⟨rfl, rfl⟩ item
          · rfl
        rw [List.cons_append, List.cons_append, none_here, none_here]

theorem opens_block_return (value : List Char) : opensBlock (value ++ ['\r']) = opensBlock value := by
  cases value with
  | nil => rfl
  | cons style rest =>
      simp only [List.cons_append, opensBlock]
      rw [(Text.run_before _ rest [] '\r' (by decide)).2, List.dropWhile_append]
      split
      · rename_i nothing
        rw [List.isEmpty_iff.mp nothing]
        rfl
      · rename_i something
        rw [List.isEmpty_iff] at something
        obtain ⟨first, behind, visible⟩ := List.exists_cons_of_ne_nil something
        rw [visible]
        rfl

theorem interpolated_return (index column : Nat) (line : List Char) (inside : column ≤ line.length) :
    interpolated index (line ++ ['\r']) column = interpolated index line column := by
  unfold interpolated Expression.interpolations
  rw [List.drop_append_of_le_length inside, Expression.interpolations_return]

theorem scalar_return (index start : Nat) (line : List Char) : scalarStretch index (line ++ ['\r']) start = scalarStretch index line start := by
  unfold scalarStretch
  have bound := ink_end_le line
  simp only [ink_end_return]
  by_cases long : start + 2 ≤ inkEnd line
  · have first : ((line ++ ['\r']).drop start).head? = (line.drop start).head? := by
      rw [List.head?_drop, List.head?_drop, List.getElem?_append_left (by omega)]
    have last : ((line ++ ['\r']).drop (inkEnd line - 1)).head? = (line.drop (inkEnd line - 1)).head? := by
      rw [List.head?_drop, List.head?_drop, List.getElem?_append_left (by omega)]
    rw [first, last]
  · simp [long]

theorem value_stretches_return (index start : Nat) (line : List Char) (isExpression : Bool) (inside : start ≤ line.length) :
    valueStretches index (line ++ ['\r']) start isExpression = valueStretches index line start isExpression := by
  unfold valueStretches
  rw [List.drop_append_of_le_length inside, Text.all_blank_return, scalar_return, interpolated_return index start line inside]

/-- Whether a text is a plain key and the colon behind it. -/
def endsAtColon : List Char → Bool
  | [] => false
  | c :: rest => Text.isNameStart c && decide ((rest.dropWhile isKeyCharacter).dropWhile isGap = [':'])

/-- Whether a line is a dash alone or ends with the colon of a plain key, as one with a value below it does. -/
def isOpenEnded (line : List Char) : Bool :=
  match leadOf line with
  | .dash indent => decide (line.drop indent = ['-'])
  | .entry _ column => endsAtColon (line.drop column)
  | _ => false

theorem behind_key_return (rest : List Char) :
    ((rest ++ ['\r']).dropWhile isKeyCharacter).dropWhile isGap = (rest.dropWhile isKeyCharacter).dropWhile isGap ++ ['\r'] := by
  rw [(Text.run_before isKeyCharacter rest [] '\r' (by decide)).2, (Text.run_before isGap _ [] '\r' (by decide)).2]

theorem colon_value_return (text : List Char) (more : text ≠ [':']) :
    colonValue? (text ++ ['\r']) = (colonValue? text).map (· ++ ['\r']) := by
  match text with
  | [] => rfl
  | [c] =>
      have other : c ≠ ':' := fun colon => more (by rw [colon])
      rw [List.cons_append, colon_value_other c _ other, colon_value_other c _ other]
      rfl
  | c :: d :: rest =>
      by_cases colon : c = ':'
      · subst colon
        have run : (d :: (rest ++ ['\r'])).dropWhile isGap = _ := (Text.run_before isGap (d :: rest) [] '\r' (by decide)).2
        have here (behind : List Char) : colonValue? (':' :: d :: behind) =
          if isGap d then some ((d :: behind).dropWhile isGap) else none := rfl
        rw [List.cons_append, List.cons_append, here, here, run]
        by_cases gap : isGap d = true
        · rw [if_pos gap, if_pos gap, Option.map_some]
        · rw [if_neg gap, if_neg gap, Option.map_none]
      · rw [List.cons_append, colon_value_other c _ colon, colon_value_other c _ colon]
        rfl

theorem entry_return (text : List Char) (closed : endsAtColon text = false) :
    plainEntry? (text ++ ['\r']) =
      Option.map (fun (key, value) => (key, value ++ ['\r'])) ( plainEntry? text) := by
  cases text with
  | nil => rfl
  | cons c rest =>
      simp only [endsAtColon, Bool.and_eq_false_iff, decide_eq_false_iff_not] at closed
      rw [List.cons_append]
      by_cases starts : Text.isNameStart c = true
      · have value := colon_value_return _ (closed.resolve_left (by simp [starts]))
        rw [plain_entry_cons c _ starts, plain_entry_cons c _ starts, valueBehind?, valueBehind?, behind_key_return, value,
          (Text.run_before isKeyCharacter rest [] '\r' (by decide)).1, Option.map_map, Option.map_map]
        rfl
      · simp [ plainEntry?, starts]

theorem entry_hidden (text : List Char) (opens : endsAtColon text = true) : plainEntry? (text ++ ['\r']) = none := by
  cases text with
  | nil => cases opens
  | cons c rest =>
      simp only [endsAtColon, Bool.and_eq_true, decide_eq_true_eq] at opens
      rw [List.cons_append, plain_entry_cons c _ opens.1, valueBehind?, behind_key_return, opens.2]
      rfl

theorem visit_entry_return (levels : List (Nat × Level)) (index : Nat) (line : List Char) (column : Nat)
    (inside : column ≤ line.length) (closed : endsAtColon (line.drop column) = false) :
    visitEntry levels index (line ++ ['\r']) column = visitEntry levels index line column := by
  unfold visitEntry
  simp only [List.drop_append_of_le_length inside, entry_return _ closed]
  cases entry : plainEntry? (line.drop column) with
  | none =>
      simp only [Option.map_none, interpolated_return index column line inside]
  | some parts =>
      obtain ⟨key, value⟩ := parts
      obtain ⟨front, c, split, -⟩ := value_apart _ key value entry
      have shorter : value.length ≤ (line.drop column).length := by
        rw [split, List.length_append, List.length_cons]
        omega
      have start : column + ((line.drop column ++ ['\r']).length - (value ++ ['\r']).length) =
          column + ((line.drop column).length - value.length) := by
        simp only [List.length_append, List.length_singleton]
        omega
      have reach : column + ((line.drop column).length - value.length) ≤ line.length := by
        have length := List.length_drop (i := column) (l := line)
        omega
      simp only [Option.map_some, opens_block_return, start, value_stretches_return _ _ line _ reach]

theorem lead_return (line : List Char) (more : ∀ indent, leadOf line = .dash indent → line.drop indent ≠ ['-']) :
    leadOf (line ++ ['\r']) = leadOf line := by
  unfold leadOf at more ⊢
  simp only [Text.trim_return, indent_return, ink_end_return, List.drop_append_of_le_length (indent_inside line)]
  split
  · rfl
  · rename_i some_content
    split
    · rfl
    · rename_i no_marker
      simp only [if_neg some_content, if_neg no_marker] at more
      rw [dash_width_return]
      intro alone
      have length := congrArg List.length alone
      rw [List.length_drop, List.length_singleton] at length
      have bound := ink_end_le line
      have short : inkEnd line ≤ indentOf line + 1 := by omega
      simp only [alone, dashWidth?, if_pos short] at more
      exact more _ rfl alone

theorem visit_return (place : Place) (index : Nat) (line : List Char) (closed : isOpenEnded line = false) :
    visit place index (line ++ ['\r']) = visit place index line := by
  have same_line (levels : List (Nat × Level)) : visitLine levels index (line ++ ['\r']) = visitLine levels index line := by
    rw [visit_line_lead, visit_line_lead, lead_return line ?_]
    · cases lead : leadOf line with
      | entry dash column =>
          unfold isOpenEnded at closed
          rw [lead] at closed
          exact visit_entry_return _ index line column (lead_space line dash column lead).1 closed
      | _ => rfl
    · intro indent lead alone
      unfold isOpenEnded at closed
      rw [lead] at closed
      simp [alone] at closed
  unfold visit
  cases place.block with
  | none => exact same_line _
  | some block =>
      simp only [Text.all_blank_return, indent_return, same_line, bodyStretches, ink_end_return,
        interpolated_return index _ line (indent_inside line)]

theorem dash_front (text : List Char) (width : Nat) (found : dashWidth? text = some width) :
    ∀ c ∈ text.take width, c = ' ' ∨ c = '-' := by
  unfold dashWidth? at found
  split at found
  · cases found
    simp
  · rename_i rest
    cases found
    rw [Nat.add_comm, List.take_succ_cons, List.take_succ_cons, take_spaces]
    simp only [List.mem_cons]
    rintro c (rfl | rfl | space)
    · exact .inr rfl
    · exact .inl rfl
    · exact .inl (by simpa using List.mem_takeWhile_imp space)
  · cases found

theorem lead_front (line : List Char) :
    (∀ indent, leadOf line = .dash indent → ∀ c ∈ line.take indent, c = ' ' ∨ c = '-') ∧
      ∀ dash column, leadOf line = .entry dash column → ∀ c ∈ line.take column, c = ' ' ∨ c = '-' := by
  have spaces : ∀ c ∈ line.take (indentOf line), c = ' ' ∨ c = '-' := by
    unfold indentOf
    rw [take_spaces]
    exact fun c member => .inl (by simpa using List.mem_takeWhile_imp member)
  unfold leadOf
  simp only
  split
  · exact ⟨nofun, nofun⟩
  · split
    · exact ⟨nofun, nofun⟩
    · split
      · rename_i width found
        split
        · refine ⟨fun indent same => ?_, nofun⟩
          cases same
          exact spaces
        · refine ⟨nofun, fun dash column same => ?_⟩
          cases same
          rw [List.take_add]
          intro c member
          rcases List.mem_append.mp member with first | second
          · exact spaces c first
          · exact dash_front _ width found c second
      · refine ⟨nofun, fun dash column same => ?_⟩
        cases same
        exact spaces

theorem at_colon_characters (text : List Char) (opens : endsAtColon text = true) :
    ∀ c ∈ text, Text.isNameStart c = true ∨ isKeyCharacter c = true ∨ isGap c = true ∨ c = ':' := by
  cases text with
  | nil => cases opens
  | cons first rest =>
      simp only [endsAtColon, Bool.and_eq_true, decide_eq_true_eq] at opens
      have keys := List.takeWhile_append_dropWhile (p := isKeyCharacter) (l := rest)
      have gaps := List.takeWhile_append_dropWhile (p := isGap) (l := rest.dropWhile isKeyCharacter)
      rw [opens.2] at gaps
      rw [← gaps] at keys
      intro c member
      rcases List.mem_cons.mp member with rfl | later
      · exact .inl opens.1
      · rw [← keys] at later
        simp only [List.mem_append, List.mem_singleton] at later
        rcases later with key | gap | colon
        · exact .inr (.inl (List.mem_takeWhile_imp key))
        · exact .inr (.inr (.inl (List.mem_takeWhile_imp gap)))
        · exact .inr (.inr (.inr colon))

theorem lone_dash_characters (line : List Char) (indent : Nat) (lead : leadOf line = .dash indent)
    (alone : line.drop indent = ['-']) : ∀ c ∈ line, c = ' ' ∨ c = '-' := by
  rw [← List.take_append_drop indent line, alone]
  intro c member
  rcases List.mem_append.mp member with front | dash
  · exact (lead_front line).1 indent lead c front
  · exact .inr (List.mem_singleton.mp dash)

theorem open_no_bracket (line : List Char) (opens : isOpenEnded line = true) : '(' ∉ line := by
  intro member
  unfold isOpenEnded at opens
  split at opens
  · rename_i indent lead
    exact absurd (lone_dash_characters line indent lead (of_decide_eq_true opens) _ member) (by decide)
  · rename_i dash column lead
    rw [← List.take_append_drop column line] at member
    rcases List.mem_append.mp member with front | behind
    · exact absurd ((lead_front line).2 dash column lead _ front) (by decide)
    · exact absurd (at_colon_characters _ opens _ behind) (by decide)
  · cases opens

theorem whole_key_name (before name after : List Char) (whole : IsWhole isKeyCharacter before name after) :
    isKeyName name = true := by
  obtain ⟨⟨first, rest, rfl, starts⟩, letters, -, -⟩ := whole
  simp only [isKeyName, starts, Bool.true_and, List.all_eq_true]
  exact fun c member => letters c (List.mem_cons_of_mem first member)

theorem hidden_no_key (line before after : List Char) (site : KeySite) (opens : isOpenEnded line = true) :
    ¬KeyAt (line ++ ['\r']) site before after := by
  rintro ⟨split, column, ⟨dash, lead⟩, ⟨value, behind⟩, whole⟩
  obtain ⟨first, rest, key, starts⟩ := whole.starts
  unfold isOpenEnded at opens
  split at opens
  · rename_i indent dashed
    have member : first ∈ line ++ ['\r'] := by
      rw [split, key]
      simp
    rcases List.mem_append.mp member with inside | last
    · rcases lone_dash_characters line indent dashed (of_decide_eq_true opens) first inside with rfl | rfl <;> cases starts
    · obtain rfl := List.mem_singleton.mp last
      cases starts
  · rename_i other place entry
    rw [lead_return line (by rw [entry]; exact nofun), entry] at lead
    cases lead
    have inside := (lead_space line dash site.column entry).1
    have text : line.drop site.column ++ ['\r'] = site.key.toList ++ after := by
      rw [← List.drop_append_of_le_length inside, split, column, List.drop_left]
    have hidden := entry_hidden _ opens
    rw [text, entry_of_key _ after value (whole_key_name _ _ _ whole) behind] at hidden
    cases hidden
  · cases opens

theorem at_colon_key (key after value : List Char) (name : isKeyName key = true) (behind : KeyTail after value) :
    endsAtColon (key ++ after) = decide (after.dropWhile isGap = [':']) := by
  obtain ⟨first, rest, rfl, starts, letters⟩ := key_name_cases key name
  have stops : after.dropWhile isKeyCharacter = after := by
    cases after with
    | nil => rfl
    | cons c after => exact List.dropWhile_cons_of_neg (by simp [behind.ends c rfl])
  rw [List.cons_append, endsAtColon, starts, Bool.true_and, List.dropWhile_append_of_pos letters, stops]

theorem key_ends_alike (line before after : List Char) (site : KeySite) (other : String) (named : KeyAt line site before after)
    (name : isKeyName other.toList = true) : isOpenEnded (before ++ (other.toList ++ after)) = isOpenEnded line := by
  obtain ⟨rfl, column, ⟨dash, lead⟩, ⟨value, behind⟩, whole⟩ := named
  have key := whole_key_name _ _ _ whole
  have same : leadOf (before ++ (other.toList ++ after)) = leadOf (before ++ (site.key.toList ++ after)) := by
    obtain ⟨c, rest, here, starts, -⟩ := key_name_cases _ key
    obtain ⟨d, letters, there, also, -⟩ := key_name_cases _ name
    rw [here, there, List.cons_append, List.cons_append]
    exact (lead_before before _ _ d c also starts).1
  unfold isOpenEnded
  rw [same, lead, column]
  simp only [List.drop_left, at_colon_key _ after value key behind, at_colon_key _ after value name behind]

end Repair

end PipelineLint
