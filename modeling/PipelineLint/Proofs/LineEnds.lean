import PipelineLint.Proofs.Calls

set_option autoImplicit false

namespace PipelineLint.Expression

-- No call reaches from a text over a blank into the rest: not behind its point, and not behind its name.
structure PartedAt (text rest : List Char) : Prop where
  point : inkBehind none text = some '.' → calledName? (Text.trimLeft rest) = none
  bracket : ∀ c ∈ inkBehind none text, Text.isWord c = true → (Text.trimLeft rest).head? ≠ some '('

instance (text rest : List Char) : Decidable (PartedAt text rest) :=
  decidable_of_iff
    ((inkBehind none text = some '.' → calledName? (Text.trimLeft rest) = none) ∧
      ∀ c ∈ inkBehind none text, Text.isWord c = true → (Text.trimLeft rest).head? ≠ some '(')
    ⟨fun ⟨point, bracket⟩ => ⟨point, bracket⟩, fun ⟨point, bracket⟩ => ⟨point, bracket⟩⟩

theorem ink_behind_or (ink : Option Char) (text : List Char) : inkBehind ink text = (inkBehind none text).or ink := by
  induction text generalizing ink with
  | nil => rfl
  | cons c text ih =>
      rw [ink_behind_cons, ink_behind_cons, ih, ih (if Text.isBlank c then none else some c)]
      cases inkBehind none text with
      | some d => rfl
      | none => split <;> rfl

theorem parted_tail (c : Char) (text rest : List Char) (parted : PartedAt (c :: text) rest) : PartedAt text rest := by
  have kept (d : Char) (found : inkBehind none text = some d) : inkBehind none (c :: text) = some d := by
    rw [ink_behind_cons, ink_behind_or, found]
    rfl
  exact ⟨fun found => parted.point (kept '.' found), fun d found => parted.bracket d (kept d found)⟩

theorem called_name_blank (b : Char) (rest : List Char) (blank : Text.isBlank b = true) : calledName? (b :: rest) = none := by
  have no_start : Text.isNameStart b = false := by
    cases starts : Text.isNameStart b with
    | false => rfl
    | true =>
        rw [Text.word_not_blank b (Text.isWord_of_isNameStart starts)] at blank
        cases blank
  simp [calledName?, no_start]

theorem allows_blank (b : Char) (blank : Text.isBlank b = true) : allowsCall (some b) = true := by
  have outside := Text.blank_not_word b blank
  have signs : ∀ d ∈ ['.', '$', '@'], b ≠ d := by
    rintro d member rfl
    simp only [List.mem_cons, List.not_mem_nil, or_false] at member
    rcases member with rfl | rfl | rfl <;> cases blank
  simp [allowsCall, outside, signs]

theorem word_ink (c : Char) (text : List Char) (word : Text.isWord c = true)
    (blank : ∀ d ∈ (c :: text).dropWhile Text.isWord, Text.isBlank d = true) :
    ∃ d, inkBehind none (c :: text) = some d ∧ Text.isWord d = true := by
  induction text generalizing c with
  | nil => exact ⟨c, by simp [inkBehind, Text.word_not_blank c word], word⟩
  | cons next text ih =>
      cases also : Text.isWord next with
      | true =>
          obtain ⟨d, found, letter⟩ := ih next also (by simpa [word] using blank)
          refine ⟨d, ?_, letter⟩
          rw [ink_behind_cons, ink_behind_or, found]
          rfl
      | false =>
          have behind : ∀ d ∈ next :: text, Text.isBlank d = true := by simpa [word, also] using blank
          refine ⟨c, ?_, word⟩
          rw [ink_behind_cons, if_neg (by simp [Text.word_not_blank c word]), ink_behind_blank _ _ behind]

theorem called_name_parted (text rest : List Char) (b : Char) (blank : Text.isBlank b = true) (parted : PartedAt text rest) :
    calledName? (text ++ b :: rest) = calledName? text := by
  cases text with
  | nil => exact called_name_blank b rest blank
  | cons c text =>
      cases starts : Text.isNameStart c with
      | false => simp [calledName?, starts]
      | true =>
          have word := Text.isWord_of_isNameStart starts
          have outside := Text.blank_not_word b blank
          obtain ⟨taken, dropped⟩ := Text.run_before Text.isWord (c :: text) rest b outside
          have bracket : (Text.trimLeft ((c :: text).dropWhile Text.isWord ++ b :: rest)).head? = some '(' ↔
              (Text.trimLeft ((c :: text).dropWhile Text.isWord)).head? = some '(' := by
            unfold Text.trimLeft
            rcases Text.run_or_stop Text.isBlank ((c :: text).dropWhile Text.isWord) with blanks | ⟨d, inside, solid⟩
            · obtain ⟨d, ink, letter⟩ := word_ink c text word blanks
              have no_bracket : (rest.dropWhile Text.isBlank).head? ≠ some '(' := parted.bracket d ink letter
              rw [List.dropWhile_append_of_pos blanks, List.dropWhile_cons_of_pos blank, List.dropWhile_eq_nil_iff.mpr blanks]
              simp [no_bracket]
            · obtain ⟨-, trimmed⟩ := Text.run_append Text.isBlank _ (b :: rest) d inside solid
              obtain ⟨e, later, left, -⟩ := Text.run_stops Text.isBlank _ d inside solid
              rw [trimmed, left]
              rfl
          rw [List.cons_append] at taken dropped ⊢
          unfold calledName?
          simp only
          rw [if_pos starts, if_pos starts, dropped, taken]
          by_cases called : (Text.trimLeft ((c :: text).dropWhile Text.isWord)).head? = some '('
          · rw [if_pos called, if_pos (bracket.mpr called)]
          · rw [if_neg called, if_neg fun open_ => called (bracket.mp open_)]

theorem point_calls_parted (offset : Nat) (text rest : List Char) (b : Char) (blank : Text.isBlank b = true)
    (parted : PartedAt ('.' :: text) rest) : pointCalls offset (text ++ b :: rest) = pointCalls offset text := by
  rcases Text.run_or_stop Text.isBlank text with blanks | ⟨d, inside, solid⟩
  · have ink : inkBehind none ('.' :: text) = some '.' := by
      rw [ink_behind_cons, ink_behind_blank _ text blanks]
      rfl
    have nothing : calledName? (rest.dropWhile Text.isBlank) = none := parted.point ink
    rw [point_calls_blank offset text blanks]
    unfold pointCalls
    rw [List.dropWhile_append_of_pos blanks, List.dropWhile_cons_of_pos blank, nothing]
    rfl
  · obtain ⟨taken, dropped⟩ := Text.run_append Text.isBlank text (b :: rest) d inside solid
    have whole : text = text.takeWhile Text.isBlank ++ text.dropWhile Text.isBlank := List.takeWhile_append_dropWhile.symm
    have behind : PartedAt (text.dropWhile Text.isBlank) rest := by
      have shorter := parted_tail '.' text rest parted
      generalize text.takeWhile Text.isBlank = blanks at whole
      generalize text.dropWhile Text.isBlank = left at whole
      subst whole
      clear parted inside taken dropped
      induction blanks with
      | nil => exact shorter
      | cons c blanks ih => exact ih (parted_tail c _ rest shorter)
    unfold pointCalls
    rw [taken, dropped, called_name_parted _ rest b blank behind]

theorem method_calls_parted (offset : Nat) (text rest : List Char) (b : Char) (blank : Text.isBlank b = true)
    (parted : PartedAt text rest) :
    methodCalls offset (text ++ b :: rest) = methodCalls offset text ++ methodCalls (offset + text.length + 1) rest := by
  induction text generalizing offset with
  | nil =>
      have differs : b ≠ '.' := by
        rintro rfl
        cases blank
      exact method_calls_skip offset b rest differs
  | cons c text ih =>
      have later := ih (offset + 1) (parted_tail c text rest parted)
      have place : offset + 1 + text.length + 1 = offset + (c :: text).length + 1 := by rw [List.length_cons]; omega
      rw [place] at later
      by_cases point : c = '.'
      · subst point
        rw [List.cons_append, method_calls_point, method_calls_point, point_calls_parted offset text rest b blank parted, later,
          List.append_assoc]
      · rw [List.cons_append, method_calls_skip offset c _ point, method_calls_skip offset c _ point, later]

theorem function_calls_free (before ink : Option Char) (offset : Nat) (rest : List Char) (allowed : allowsCall before = true)
    (free : ink = some '.' → calledName? (Text.trimLeft rest) = none) :
    functionCalls before ink offset rest = functionCalls none none offset rest := by
  induction rest generalizing before ink offset with
  | nil => rfl
  | cons c rest ih =>
      rw [function_calls_cons, function_calls_cons none none]
      cases blank : Text.isBlank c with
      | true =>
          have no_start : calledName? (c :: rest) = none := called_name_blank c rest blank
          have first (before ink : Option Char) : firstCalls before ink offset (c :: rest) = [] := by
            simp [firstCalls, no_start]
          have plain := allows_blank c blank
          have onward : ink = some '.' → calledName? (Text.trimLeft rest) = none := by
            simpa [Text.trimLeft, blank] using free
          rw [first, first, if_pos rfl, if_pos rfl, ih (some c) ink (offset + 1) plain onward,
            ih (some c) none (offset + 1) plain (by simp)]
      | false =>
          have same : firstCalls before ink offset (c :: rest) = firstCalls none none offset (c :: rest) := by
            by_cases point : ink = some '.'
            · have nothing : calledName? (c :: rest) = none := by simpa [Text.trimLeft, blank] using free point
              simp [firstCalls, nothing]
            · have none_allowed : allowsCall none = true := rfl
              simp [firstCalls, allowed, none_allowed, point]
          rw [same]
          rfl

theorem function_calls_parted (before ink : Option Char) (offset : Nat) (text rest : List Char) (b : Char)
    (blank : Text.isBlank b = true) (parted : PartedAt text rest) :
    functionCalls before ink offset (text ++ b :: rest) =
      functionCalls before ink offset text ++ functionCalls (some b) (inkBehind ink text) (offset + text.length + 1) rest := by
  induction text generalizing before ink offset with
  | nil =>
      have no_start := called_name_blank b rest blank
      rw [List.nil_append, function_calls_cons, if_pos blank]
      simp [firstCalls, no_start, functionCalls, inkBehind]
  | cons c text ih =>
      have later := ih (some c) (if Text.isBlank c then ink else some c) (offset + 1) (parted_tail c text rest parted)
      have place : offset + 1 + text.length + 1 = offset + (c :: text).length + 1 := by rw [List.length_cons]; omega
      have first : firstCalls before ink offset (c :: text ++ b :: rest) = firstCalls before ink offset (c :: text) := by
        unfold firstCalls
        rw [called_name_parted (c :: text) rest b blank parted]
      rw [place] at later
      rw [List.cons_append] at first ⊢
      rw [function_calls_cons, first, later, function_calls_cons, ink_behind_cons, List.append_assoc]

theorem calls_parted (kind : CallKind) (offset : Nat) (text rest : List Char) (b : Char) (blank : Text.isBlank b = true)
    (parted : PartedAt text rest) :
    callsFrom kind offset (text ++ b :: rest) = callsFrom kind offset text ++ callsFrom kind (offset + text.length + 1) rest := by
  cases kind with
  | method => exact method_calls_parted offset text rest b blank parted
  | function =>
      simp only [callsFrom]
      rw [function_calls_parted none none offset text rest b blank parted,
        function_calls_free (some b) (inkBehind none text) _ rest (allows_blank b blank) parted.point]

def CallSite.moved (offset : Nat) (site : CallSite) : CallSite :=
  { site with start := offset + site.start }

theorem method_calls_moved (offset place : Nat) (masked : List Char) :
    methodCalls (offset + place) masked = (methodCalls place masked).map (CallSite.moved offset) := by
  induction masked generalizing place with
  | nil => rfl
  | cons c rest ih =>
      have later := ih (place + 1)
      rw [← Nat.add_assoc] at later
      by_cases point : c = '.'
      · subst point
        rw [method_calls_point, method_calls_point, later, List.map_append]
        simp [pointCalls, CallSite.moved, Nat.add_assoc]
      · rw [method_calls_skip _ c rest point, method_calls_skip _ c rest point, later]

theorem function_calls_moved (before ink : Option Char) (offset place : Nat) (masked : List Char) :
    functionCalls before ink (offset + place) masked =
      (functionCalls before ink place masked).map (CallSite.moved offset) := by
  induction masked generalizing before ink place with
  | nil => rfl
  | cons c rest ih =>
      have later := ih (some c) (if Text.isBlank c then ink else some c) (place + 1)
      rw [← Nat.add_assoc] at later
      rw [function_calls_cons, function_calls_cons, later, List.map_append]
      unfold firstCalls
      split
      · simp [CallSite.moved]
      · rfl

theorem calls_moved (kind : CallKind) (offset : Nat) (masked : List Char) :
    callsFrom kind offset masked = (callsFrom kind 0 masked).map (CallSite.moved offset) := by
  cases kind with
  | method => exact method_calls_moved offset 0 masked
  | function => exact function_calls_moved none none offset 0 masked

theorem mask_blank (b : Char) (rest : List Char) (blank : Text.isBlank b = true) : mask (b :: rest) = b :: mask rest := by
  refine mask_code b rest ?_ ?_
  all_goals
    rintro rfl
    cases blank

theorem no_quotes_behind (rest blanks : List Char) (blank : ∀ c ∈ blanks, Text.isBlank c = true)
    (single : ∀ later, rest ≠ '"' :: '"' :: later) : ∀ later, rest ++ blanks ≠ '"' :: '"' :: later := by
  intro later same
  match rest, blanks, blank, same with
  | [], b :: blanks, blank, same =>
      obtain ⟨rfl, -⟩ := List.cons.inj same
      cases blank _ List.mem_cons_self
  | [_], b :: blanks, blank, same =>
      obtain ⟨rfl, -⟩ := List.cons.inj (List.cons.inj same).2
      cases blank _ List.mem_cons_self
  | first :: second :: rest, _, _, same =>
      obtain ⟨rfl, tail⟩ := List.cons.inj same
      obtain ⟨rfl, -⟩ := List.cons.inj tail
      exact single rest rfl

theorem mask_all_blank (region : Region) (blanks : List Char) (blank : ∀ c ∈ blanks, Text.isBlank c = true) :
    ∀ c ∈ maskFrom region blanks, Text.isBlank c = true := by
  intro c member
  cases solid : Text.isBlank c with
  | true => rfl
  | false =>
      rw [blank c (mask_member region blanks c solid member)] at solid
      cases solid

theorem mask_blanks_behind (region : Region) (text blanks : List Char) (blank : ∀ c ∈ blanks, Text.isBlank c = true) :
    ∃ shown, maskFrom region (text ++ blanks) = maskFrom region text ++ shown ∧ ∀ c ∈ shown, Text.isBlank c = true := by
  fun_induction maskFrom region text with
  | case1 region => exact ⟨maskFrom region blanks, rfl, mask_all_blank region blanks blank⟩
  | case2 _ ih | case4 _ _ _ ih | case7 _ _ ih | case10 _ ih | case12 _ ih =>
      obtain ⟨shown, same, all⟩ := ih
      exact ⟨shown, by simp [maskFrom, same], all⟩
  | case3 rest single ih =>
      obtain ⟨shown, same, all⟩ := ih
      have alone := no_quotes_behind rest blanks blank fun later => single later rfl
      refine ⟨shown, ?_, all⟩
      rw [List.cons_append, maskFrom, if_pos rfl, same, List.cons_append]
      exact fun later _ => alone later
  | case5 first rest _ quote mark ih =>
      obtain ⟨shown, same, all⟩ := ih
      exact ⟨shown, by rw [List.cons_append, mask_code first _ quote mark, same]; rfl, all⟩
  | case6 =>
      -- A backslash at the end of a literal takes the first of the blanks with it.
      cases blanks with
      | nil => exact ⟨[], rfl, List.forall_mem_nil _⟩
      | cons b blanks =>
          refine ⟨' ' :: maskFrom .literal blanks, by simp [maskFrom], List.forall_mem_cons.mpr ⟨by decide, ?_⟩⟩
          exact mask_all_blank .literal blanks fun c member => blank c (List.mem_cons_of_mem _ member)
  | case8 first rest _ _ closes ih =>
      obtain ⟨shown, same, all⟩ := ih
      refine ⟨shown, ?_, all⟩
      rw [List.cons_append, maskFrom, if_pos closes, same, List.cons_append]
      all_goals grind
  | case9 first rest alone pair closes ih =>
      obtain ⟨shown, same, all⟩ := ih
      have plain : first ≠ '\\' := by
        intro mark
        cases rest with
        | nil => exact alone mark rfl
        | cons second rest => exact pair second rest mark rfl
      refine ⟨shown, ?_, all⟩
      rw [List.cons_append, maskFrom, if_neg closes, same, List.cons_append]
      all_goals grind
  | case11 first rest single ih =>
      obtain ⟨shown, same, all⟩ := ih
      refine ⟨shown, ?_, all⟩
      rw [List.cons_append, maskFrom, same, List.cons_append]
      intro later quote
      exact no_quotes_behind rest blanks blank (fun later => single later quote) later
  | case13 first rest feed ih =>
      obtain ⟨shown, same, all⟩ := ih
      exact ⟨shown, by simp [maskFrom, feed, same], all⟩

theorem blank_parted (text blanks : List Char) (blank : ∀ c ∈ blanks, Text.isBlank c = true) : PartedAt text blanks := by
  have nothing : Text.trimLeft blanks = [] := List.dropWhile_eq_nil_iff.mpr blank
  exact ⟨fun _ => by rw [nothing]; rfl, fun _ _ _ => by simp [nothing]⟩

theorem parted_nil (rest : List Char) : PartedAt [] rest :=
  ⟨nofun, nofun⟩

theorem calls_blank (kind : CallKind) (offset : Nat) (blanks : List Char) (blank : ∀ c ∈ blanks, Text.isBlank c = true) :
    callsFrom kind offset blanks = [] := by
  induction blanks generalizing offset with
  | nil => cases kind <;> rfl
  | cons b blanks ih =>
      obtain ⟨here, others⟩ := List.forall_mem_cons.mp blank
      have split := calls_parted kind offset [] blanks b here (parted_nil blanks)
      rw [ih _ others, List.append_nil] at split
      exact split.trans (by cases kind <;> rfl)

theorem calls_behind_blanks (kind : CallKind) (blanks text : List Char) (blank : ∀ c ∈ blanks, Text.isBlank c = true) :
    callsOf kind (blanks ++ text) = (callsOf kind text).map (CallSite.moved blanks.length) := by
  induction blanks with
  | nil => exact (List.map_id'' (fun site => by simp [CallSite.moved]) _).symm
  | cons b blanks ih =>
      obtain ⟨here, others⟩ := List.forall_mem_cons.mp blank
      have first : callsOf kind (b :: (blanks ++ text)) = callsFrom kind 1 (mask (blanks ++ text)) := by
        have split := calls_parted kind 0 [] (mask (blanks ++ text)) b here (parted_nil _)
        unfold callsOf
        rw [mask_blank b _ here]
        exact split.trans (by cases kind <;> rfl)
      rw [List.cons_append, first, calls_moved kind 1]
      show (callsOf kind (blanks ++ text)).map _ = _
      rw [ih others, List.map_map]
      refine List.map_congr_left fun site _ => ?_
      have place : 1 + (blanks.length + site.start) = (b :: blanks).length + site.start := by rw [List.length_cons]; omega
      simp only [Function.comp_apply, CallSite.moved, place]

theorem calls_before_blanks (kind : CallKind) (text blanks : List Char) (blank : ∀ c ∈ blanks, Text.isBlank c = true) :
    callsOf kind (text ++ blanks) = callsOf kind text := by
  obtain ⟨shown, masked, all⟩ := mask_blanks_behind .code text blanks blank
  unfold callsOf mask
  rw [masked]
  cases shown with
  | nil => rw [List.append_nil]
  | cons b shown =>
      obtain ⟨here, others⟩ := List.forall_mem_cons.mp all
      rw [calls_parted kind 0 _ shown b here (blank_parted _ shown others), calls_blank kind _ shown others, List.append_nil]

-- No literal and no call of an expression goes over the end of a line.
def LineByLine : List (List Char) → Prop
  | [] => True
  | line :: rest =>
      (rest ≠ [] → mask (line ++ '\n' :: Text.joinFeeds rest) = mask line ++ '\n' :: mask (Text.joinFeeds rest) ∧
        PartedAt (mask line) (mask (Text.joinFeeds rest))) ∧ LineByLine rest

instance decideLineByLine : (lines : List (List Char)) → Decidable (LineByLine lines)
  | [] => .isTrue trivial
  | line :: rest =>
      have := decideLineByLine rest
      inferInstanceAs (Decidable ((rest ≠ [] →
        mask (line ++ '\n' :: Text.joinFeeds rest) = mask line ++ '\n' :: mask (Text.joinFeeds rest) ∧
          PartedAt (mask line) (mask (Text.joinFeeds rest))) ∧ LineByLine rest))

theorem calls_first_line (kind : CallKind) (line next : List Char) (rest : List (List Char))
    (apart : LineByLine (line :: next :: rest)) :
    callsOf kind (Text.joinFeeds (line :: next :: rest)) =
      callsOf kind line ++ (callsOf kind (Text.joinFeeds (next :: rest))).map (CallSite.moved (line.length + 1)) := by
  obtain ⟨masked, parted⟩ := apart.1 (List.cons_ne_nil next rest)
  have length : (mask line).length = line.length := length_maskFrom .code line
  unfold callsOf
  rw [Text.joinFeeds_cons_cons, masked, calls_parted kind 0 _ _ '\n' (by decide) parted, length, Nat.zero_add,
    calls_moved kind (line.length + 1)]

end PipelineLint.Expression
