import PipelineLint.Proofs.DocumentCalls
import PipelineLint.Proofs.OutlineKeys

set_option autoImplicit false

namespace PipelineLint.Expression

/-! ## Calls of an expression -/

theorem mask_hidden (region : Region) (rest : List Char) (c : Char) (word : Text.isWord c = true) (hides : region ≠ .code) :
    ∃ shown, maskFrom region (c :: rest) = ' ' :: shown := by
  have quote := word_ne c '"' word (by decide)
  have feed := word_ne c '\n' word (by decide)
  have escape := word_ne c '\\' word (by decide)
  cases region with
  | code => contradiction
  | literal => exact ⟨_, by rw [maskFrom, if_neg (by simp [quote, feed])] <;> simp [escape]⟩
  | tripleLiteral => exact ⟨_, by rw [maskFrom, if_neg feed]; simp [quote]⟩
  | comment => exact ⟨_, by rw [maskFrom, if_neg feed]⟩

theorem pair_step (region : Region) (text before rest masked shown : List Char) (d c first sign : Char)
    (word : Text.isWord c = true) (split : first :: text = before ++ d :: c :: rest)
    (mask : sign :: maskFrom region text = masked ++ c :: shown) (lengths : masked.length = before.length + 1)
    (seen : region = .code → first = d → sign = d)
    (onward : ∀ before masked, text = before ++ d :: c :: rest → maskFrom region text = masked ++ c :: shown →
      masked.length = before.length + 1 → ∃ lead, masked = lead ++ [d]) : ∃ lead, masked = lead ++ [d] := by
  cases masked with
  | nil => cases lengths
  | cons other masked =>
      obtain ⟨rfl, tail⟩ := List.cons.inj mask
      cases before with
      | cons first before =>
          obtain ⟨rfl, behind⟩ := List.cons.inj split
          obtain ⟨lead, rfl⟩ := onward before masked behind tail (by simpa using lengths)
          exact ⟨sign :: lead, rfl⟩
      | nil =>
          obtain ⟨rfl, rfl⟩ := List.cons.inj split
          obtain rfl : masked = [] := by simpa using lengths
          by_cases code : region = .code
          · exact ⟨[], by rw [seen code rfl]; rfl⟩
          · obtain ⟨later, hidden⟩ := mask_hidden region rest c word code
            rw [hidden] at tail
            obtain ⟨rfl, -⟩ := List.cons.inj tail
            cases word

theorem pair_quotes (text behind before rest masked shown : List Char) (d c : Char) (quote : d ≠ '"')
    (split : '"' :: '"' :: '"' :: text = before ++ d :: c :: rest)
    (mask : '"' :: '"' :: '"' :: behind = masked ++ c :: shown) (lengths : masked.length = before.length + 1)
    (onward : ∀ before masked, text = before ++ d :: c :: rest → behind = masked ++ c :: shown →
      masked.length = before.length + 1 → ∃ lead, masked = lead ++ [d]) : ∃ lead, masked = lead ++ [d] := by
  match before, masked with
  | [], _ => exact absurd (List.cons.inj split).1.symm quote
  | [_], _ => exact absurd (List.cons.inj (List.cons.inj split).2).1.symm quote
  | [_, _], _ => exact absurd (List.cons.inj (List.cons.inj (List.cons.inj split).2).2).1.symm quote
  | _ :: _ :: _ :: _, [] => cases lengths
  | _ :: _ :: _ :: _, [_] => simp at lengths
  | _ :: _ :: _ :: _, [_, _] => simp at lengths
  | _ :: _ :: _ :: before, x :: y :: z :: masked =>
      simp only [List.cons_append, List.cons.injEq] at split mask
      obtain ⟨lead, rfl⟩ := onward before masked split.2.2.2 mask.2.2.2 (by simpa using lengths)
      exact ⟨x :: y :: z :: lead, rfl⟩

theorem pair_escaped (text before rest masked shown : List Char) (d c escaped : Char) (word : Text.isWord c = true)
    (mark : d ≠ '\\') (split : '\\' :: escaped :: text = before ++ d :: c :: rest)
    (mask : ' ' :: ' ' :: maskFrom .literal text = masked ++ c :: shown) (lengths : masked.length = before.length + 1)
    (onward : ∀ before masked, text = before ++ d :: c :: rest → maskFrom .literal text = masked ++ c :: shown →
      masked.length = before.length + 1 → ∃ lead, masked = lead ++ [d]) : ∃ lead, masked = lead ++ [d] := by
  match before, masked with
  | [], _ => exact absurd (List.cons.inj split).1.symm mark
  | [_], [] => cases lengths
  | [_], [_] => simp at lengths
  | [_], _ :: _ :: masked =>
      simp only [List.cons_append, List.nil_append, List.cons.injEq] at split mask
      obtain rfl : masked = [] := by simpa using lengths
      obtain ⟨later, hidden⟩ := mask_hidden .literal rest c word (by simp)
      rw [split.2.2, hidden] at mask
      obtain ⟨rfl, -⟩ := List.cons.inj mask.2.2
      cases word
  | _ :: _ :: _, [] => cases lengths
  | _ :: _ :: _, [_] => simp at lengths
  | _ :: _ :: before, x :: y :: masked =>
      simp only [List.cons_append, List.cons.injEq] at split mask
      obtain ⟨lead, rfl⟩ := onward before masked split.2.2 mask.2.2 (by simpa using lengths)
      exact ⟨x :: y :: lead, rfl⟩

theorem mask_pair (region : Region) (text before rest masked shown : List Char) (d c : Char) (letter : Text.isWord d = true)
    (word : Text.isWord c = true) (split : text = before ++ d :: c :: rest)
    (mask : maskFrom region text = masked ++ c :: shown)
    (lengths : masked.length = before.length + 1) : ∃ lead, masked = lead ++ [d] := by
  have dq : d ≠ '"' := word_ne d '"' letter (by decide)
  have db : d ≠ '\\' := word_ne d '\\' letter (by decide)
  fun_induction maskFrom region text generalizing before masked with
  | case1 => simp at split
  | case2 rest ih => exact pair_quotes _ _ before _ masked shown d c dq split mask lengths ih
  | case3 rest single ih =>
      exact pair_step .literal _ before _ masked shown d c _ _ word split mask lengths (by simp) ih
  | case4 rest _ mark ih =>
      exact pair_step .comment _ before _ masked shown d c _ _ word split mask lengths (by simp) ih
  | case5 first rest _ quote mark ih =>
      exact pair_step .code _ before _ masked shown d c _ _ word split mask lengths (fun _ same => same) ih
  | case6 =>
      have short := congrArg List.length split
      simp only [List.length_cons, List.length_nil, List.length_append] at short
      omega
  | case7 escaped text ih =>
      exact pair_escaped text before rest masked shown d c escaped word db split mask lengths ih
  | case8 first rest _ _ closes ih =>
      exact pair_step .code _ before _ masked shown d c _ _ word split mask lengths (fun _ same => same) ih
  | case9 first rest alone pair closes ih =>
      exact pair_step .literal _ before _ masked shown d c _ _ word split mask lengths (by simp) ih
  | case10 rest ih => exact pair_quotes _ _ before _ masked shown d c dq split mask lengths ih
  | case11 first rest single ih =>
      exact pair_step .tripleLiteral _ before _ masked shown d c _ _ word split mask lengths (by simp) ih
  | case12 rest ih =>
      exact pair_step .code _ before _ masked shown d c _ _ word split mask lengths (fun _ same => same) ih
  | case13 first rest feed ih =>
      exact pair_step .comment _ before _ masked shown d c _ _ word split mask lengths (by simp) ih

theorem opens_ink (tail : List Char) (opens : Opens tail) : 0 < tail.length := by
  obtain ⟨gap, rest, rfl, -⟩ := opens
  rw [List.length_append, List.length_cons]
  omega

theorem comment_hidden (text : List Char) (one_line : '\n' ∉ text) : ∀ c ∈ maskFrom .comment text, c = ' ' := by
  induction text with
  | nil => simp [maskFrom]
  | cons first rest ih =>
      obtain ⟨here, others⟩ := not_or.mp (mt List.mem_cons.mpr one_line)
      rw [maskFrom, if_neg (Ne.symm here)]
      exact List.forall_mem_cons.mpr ⟨rfl, ih others⟩

theorem comment_no_bracket (behind : List Char) (one_line : '\n' ∉ behind) : '(' ∉ maskFrom .code ('#' :: behind) := by
  intro bracket
  have mark : maskFrom .code ('#' :: behind) = ' ' :: maskFrom .comment behind := by simp [maskFrom]
  rw [mark] at bracket
  rcases List.mem_cons.mp bracket with same | hidden
  · cases same
  · exact absurd (comment_hidden behind one_line '(' hidden) (by decide)

theorem opens_unmasked (tail gap rest : List Char) (blank : ∀ c ∈ gap, Text.isBlank c = true) (one_line : '\n' ∉ tail)
    (shown : maskFrom .code tail = gap ++ '(' :: rest) : Opens tail := by
  induction gap generalizing tail with
  | nil =>
      obtain ⟨behind, rfl | ⟨rfl, -⟩⟩ := unmask_plain tail rest '(' (by decide) shown
      · exact absurd (shown ▸ by simp) (comment_no_bracket behind (mt (List.mem_cons_of_mem _) one_line))
      · exact ⟨[], behind, rfl, by simp⟩
  | cons c gap ih =>
      obtain ⟨here, blanks⟩ := List.forall_mem_cons.mp blank
      have quote : c ≠ '"' := by
        rintro rfl
        cases here
      obtain ⟨behind, rfl | ⟨rfl, same⟩⟩ := unmask_plain tail _ c quote shown
      · exact absurd (shown ▸ by simp) (comment_no_bracket behind (mt (List.mem_cons_of_mem _) one_line))
      · obtain ⟨gap, rest, rfl, others⟩ := ih behind blanks (mt (List.mem_cons_of_mem _) one_line) same
        exact ⟨c :: gap, rest, rfl, List.forall_mem_cons.mpr ⟨here, others⟩⟩

theorem call_place (kind : CallKind) (text : List Char) (front back : List CallSite) (site : CallSite)
    (found : callsOf kind text = front ++ site :: back) :
    ∃ before tail, text = before ++ (site.name ++ tail) ∧ site.start = before.length ∧
      Text.isIdentifier site.name = true ∧ CallTail tail ∧ ('\n' ∉ text → Opens tail) ∧
      (∀ c ∈ before.getLast?, Text.isWord c = false) ∧ ∀ earlier ∈ front, earlier.stop < site.start := by
  obtain ⟨pre, shown, masked, identifier, opens, outside, place, -, same⟩ := calls_split kind _ front back site found
  obtain ⟨before, tail, rfl, rfl, cuts⟩ := masked_name text pre site.name shown identifier masked
  have start : site.start = pre.length := by rw [place]
  refine ⟨before, tail, rfl, start.trans cuts.1.symm, identifier, call_tail_unmasked tail opens, fun one_line => ?_, ?_, ?_⟩
  · obtain ⟨gap, rest, same, blank⟩ := opens
    exact opens_unmasked tail gap rest blank (fun member => one_line (by simp [member])) same
  · intro d last
    cases letter : Text.isWord d with
    | false => rfl
    | true =>
        obtain ⟨lead, rfl⟩ := List.getLast?_eq_some_iff.mp last
        obtain ⟨c, letters, name, starts, -⟩ := Text.identifier_cases site.name identifier
        rw [name] at masked
        obtain ⟨shorter, rfl⟩ := mask_pair .code _ lead (letters ++ tail) pre _ d c letter (Text.isWord_of_isNameStart starts)
          (by simp) masked (by rw [← cuts.1]; simp)
        rw [char_behind_append] at outside
        simp [charBehind, isOutside, letter] at outside
  · intro earlier member
    rw [same] at member
    obtain ⟨first, last, split⟩ := List.append_of_mem member
    obtain ⟨shorter, behind, rfl, -, bracket, -, here, -⟩ := calls_split kind pre first last earlier split
    have ink := opens_ink behind bracket
    rw [start, here, CallSite.stop]
    simp only [List.length_append]
    omega

end PipelineLint.Expression

namespace PipelineLint.Repair

open Expression

-- A name in a text that cannot be read as a part of a longer one, by the characters that names have.
structure IsWhole (letter : Char → Bool) (before name after : List Char) : Prop where
  starts : ∃ first rest, name = first :: rest ∧ Text.isNameStart first = true
  letters : ∀ c ∈ name, letter c = true
  apart : ∀ c ∈ before.getLast?, letter c = false
  ends : ∀ c ∈ after.head?, letter c = false

theorem call_whole (before name tail : List Char) (identifier : Text.isIdentifier name = true) (behind : CallTail tail)
    (apart : ∀ c ∈ before.getLast?, Text.isWord c = false) : IsWhole Text.isWord before name tail := by
  obtain ⟨first, rest, split, starts, -⟩ := Text.identifier_cases name identifier
  refine ⟨⟨first, rest, split, starts⟩, Text.identifier_words name identifier, apart, fun c head => ?_⟩
  have ends := behind.ends c head
  cases word : Text.isWord c with
  | false => rfl
  | true =>
      rw [word_is_key c word] at ends
      cases ends

/-! ## Calls of a line -/

structure NamedAt (line : List Char) (call : CallPlace) (before after : List Char) : Prop where
  split : line = before ++ (call.name.toList ++ after)
  start : call.start = before.length
  stop : call.stop = before.length + call.name.length
  whole : IsWhole Text.isWord before call.name.toList after
  opens : '\n' ∉ line → Opens after

theorem opens_append (tail rest : List Char) (opens : Opens tail) : Opens (tail ++ rest) := by
  obtain ⟨gap, inside, rfl, blank⟩ := opens
  exact ⟨gap, inside ++ rest, by simp, blank⟩

theorem stretch_split (stretch : Stretch) (line : List Char) (order : stretch.start ≤ stretch.stop) :
    line = line.take stretch.start ++ (stretch.text line ++ line.drop stretch.stop) := by
  have front := List.take_append_drop stretch.start (line.take stretch.stop)
  rw [List.take_take, Nat.min_eq_left order] at front
  rw [← List.append_assoc, Stretch.text, front, List.take_append_drop]

theorem stretch_call_place (stretch : Stretch) (kind : CallKind) (line : List Char) (front back : List CallPlace)
    (call : CallPlace) (inside : stretch.stop ≤ line.length)
    (apart : ∀ c ∈ (line.take stretch.start).getLast?, Text.isWord c = false)
    (found : stretch.calls kind line = front ++ call :: back) :
    (∃ before after, NamedAt line call before after) ∧ stretch.start ≤ call.start ∧ call.stop < stretch.stop ∧
      ∀ earlier ∈ front, earlier.stop < call.start := by
  rw [stretch_calls] at found
  obtain ⟨sites, rest, whole, rfl, tailed⟩ := List.map_eq_append_iff.mp found
  obtain ⟨site, others, rfl, rfl, rfl⟩ := List.map_eq_cons_iff.mp tailed
  obtain ⟨before, tail, text, start, identifier, behind, bracket, alone, order⟩ :=
    call_place kind _ sites others site whole
  have lengths : (stretch.text line).length = stretch.stop - stretch.start := by
    simp [Stretch.text, Nat.min_eq_left inside]
  have ink : 0 < tail.length := List.length_pos_of_mem behind.bracket
  have column : (line.take stretch.start).length = stretch.start := by
    rw [text, List.length_append, List.length_append] at lengths
    rw [List.length_take]
    omega
  have split := stretch_split stretch line (by rw [text, List.length_append, List.length_append] at lengths; omega)
  rw [text] at split lengths
  simp only [List.length_append] at lengths
  refine ⟨⟨line.take stretch.start ++ before, tail ++ line.drop stretch.stop, ?_, ?_, ?_, ?_, fun one_line => ?_⟩, ?_, ?_, ?_⟩
  · rw [placed, String.toList_ofList]
    simpa using split
  · rw [List.length_append, column, placed, start]
  · rw [List.length_append, column, placed, CallSite.stop, start, String.length_ofList, Nat.add_assoc]
  · rw [placed, String.toList_ofList]
    refine call_whole _ site.name _ identifier (call_tail_append tail _ behind) fun c last => ?_
    rcases List.eq_nil_or_concat before with rfl | ⟨lead, d, rfl⟩
    · rw [List.append_nil] at last
      exact apart c last
    · rw [List.concat_eq_append] at last alone
      rw [← List.append_assoc, List.getLast?_concat] at last
      rw [List.getLast?_concat] at alone
      exact alone c last
  · refine opens_append _ _ (bracket fun member => one_line ?_)
    exact List.mem_of_mem_take (List.mem_of_mem_drop member)
  · exact Nat.le_add_right _ _
  · simp only [placed, CallSite.stop]
    omega
  · intro earlier member
    obtain ⟨first, inside, rfl⟩ := List.mem_map.mp member
    exact Nat.add_lt_add_left (order first inside) _

structure AreApart (line : List Char) (stretches : List Stretch) : Prop where
  inside : ∀ stretch ∈ stretches, stretch.stop ≤ line.length
  apart : ∀ stretch ∈ stretches, ∀ c ∈ (line.take stretch.start).getLast?, Text.isWord c = false
  order : stretches.Pairwise fun first second => first.stop ≤ second.start

theorem stretches_call_place (stretches : List Stretch) (kind : CallKind) (line : List Char) (front back : List CallPlace)
    (call : CallPlace) (are : AreApart line stretches) (found : callsIn kind stretches line = front ++ call :: back) :
    (∃ before after, NamedAt line call before after) ∧ ∀ earlier ∈ front, earlier.stop < call.start := by
  obtain ⟨inside, apart, order⟩ := are
  obtain ⟨before, stretch, after, first, last, rfl, here, rfl, rfl⟩ := flat_map_split _ _ front back call found
  have member : stretch ∈ before ++ stretch :: after := by simp
  obtain ⟨named, starts, -, earlier⟩ :=
    stretch_call_place stretch kind line first last call (inside stretch member) (apart stretch member) here
  refine ⟨named, fun other seen => ?_⟩
  rcases List.mem_append.mp seen with seen | seen
  · obtain ⟨previous, listed, called⟩ := List.mem_flatMap.mp seen
    obtain ⟨some_front, some_back, split⟩ := List.append_of_mem called
    have listed_too : previous ∈ before ++ stretch :: after := List.mem_append_left _ listed
    obtain ⟨-, -, stops, -⟩ := stretch_call_place previous kind line some_front some_back other (inside previous listed_too)
      (apart previous listed_too) split
    have between := (List.pairwise_append.mp order).2.2 previous listed stretch List.mem_cons_self
    omega
  · exact earlier other seen

theorem interpolation_opened (offset : Nat) (text : List Char) (span : Interpolation)
    (member : span ∈ interpolationsFrom offset text) :
    ∃ lead rest, text = lead ++ (opener ++ (span.body ++ rest)) ∧ span.start = offset + (lead ++ opener).length := by
  fun_induction interpolationsFrom offset text with
  | case1 offset rest body after taken ih =>
      obtain ⟨-, rfl⟩ := take_expression_body 0 false rest body after taken
      rcases List.mem_cons.mp member with rfl | later
      · exact ⟨[], _, rfl, rfl⟩
      · obtain ⟨lead, behind, rfl, start⟩ := ih later
        refine ⟨opener ++ (body ++ '\x7d' :: lead), behind, by simp [opener], ?_⟩
        rw [start]
        simp [opener]
        omega
  | case2 => cases member
  | case3 offset c rest _ ih =>
      obtain ⟨lead, behind, rfl, start⟩ := ih member
      refine ⟨c :: lead, behind, rfl, ?_⟩
      rw [start, List.cons_append, List.length_cons]
      omega
  | case4 => cases member

theorem interpolations_ordered (offset : Nat) (text : List Char) :
    (interpolationsFrom offset text).Pairwise fun first second => first.stop ≤ second.start := by
  fun_induction interpolationsFrom offset text with
  | case1 offset rest body after taken ih =>
      refine List.pairwise_cons.mpr ⟨fun span member => ?_, ih⟩
      obtain ⟨head, -, -, start⟩ := interpolation_place _ after span member
      rw [start, Interpolation.stop]
      simp only
      omega
  | case2 => exact List.Pairwise.nil
  | case3 offset c rest _ ih => exact ih
  | case4 => exact List.Pairwise.nil

theorem interpolated_apart (index column : Nat) (line : List Char) (inside : column ≤ line.length) :
    AreApart line (interpolated index line column) := by
  have opened (stretch : Stretch) (member : stretch ∈ interpolated index line column) : ∃ lead body rest,
      line = lead ++ (opener ++ (body ++ rest)) ∧ stretch.start = (lead ++ opener).length ∧
        stretch.stop = stretch.start + body.length := by
    obtain ⟨span, listed, rfl⟩ := List.mem_map.mp member
    obtain ⟨lead, rest, text, start⟩ := interpolation_opened 0 _ span listed
    refine ⟨line.take column ++ lead, span.body, rest, ?_, ?_, (Nat.add_assoc column span.start span.body.length).symm⟩
    · rw [List.append_assoc, ← text, List.take_append_drop]
    · simp only [start, List.length_append, List.length_take, Nat.min_eq_left inside]
      omega
  constructor
  · intro stretch member
    obtain ⟨lead, body, rest, rfl, start, stop⟩ := opened stretch member
    rw [stop, start]
    simp only [List.length_append]
    omega
  · intro stretch member c last
    obtain ⟨lead, body, rest, rfl, start, -⟩ := opened stretch member
    rw [← List.append_assoc, start, List.take_left'] at last
    · have mark : (lead ++ opener).getLast? = some '!' := by rw [List.getLast?_append]; rfl
      rw [mark] at last
      rw [← Option.some.inj last]
      decide
    · rfl
  · unfold interpolated
    exact (interpolations_ordered 0 _).map _ fun first second order => Nat.add_le_add_left order column

theorem take_spaces (text : List Char) :
    text.take (text.takeWhile (· = ' ')).length = text.takeWhile (· = ' ') := by
  have whole : text = text.takeWhile (· = ' ') ++ text.dropWhile (· = ' ') := List.takeWhile_append_dropWhile.symm
  exact (congrArg (List.take _) whole).trans (List.take_left' rfl)

theorem last_space (text : List Char) : ∀ c ∈ (text.takeWhile (· = ' ')).getLast?, c = ' ' := by
  intro c last
  exact of_decide_eq_true (List.all_eq_true.mp List.all_takeWhile c (List.mem_of_getLast? last))

theorem indent_space (line : List Char) : ∀ c ∈ (line.take (indentOf line)).getLast?, c = ' ' := by
  rw [indentOf, take_spaces]
  exact last_space line

theorem dash_space (text : List Char) (width : Nat) (found : dashWidth? text = some width) (more : width < text.length) :
    ∃ lead, text.take width = lead ++ [' '] := by
  unfold dashWidth? at found
  split at found
  · cases found
    simp at more
  · rename_i rest
    obtain rfl := Option.some.inj found
    have shown : ('-' :: ' ' :: rest).take (2 + (rest.takeWhile (· = ' ')).length) =
        '-' :: ' ' :: rest.takeWhile (· = ' ') := by
      rw [Nat.add_comm, List.take_succ_cons, List.take_succ_cons, take_spaces]
    rw [shown]
    rcases List.eq_nil_or_concat (rest.takeWhile (· = ' ')) with nothing | ⟨spaces, c, last⟩
    · exact ⟨['-'], by rw [nothing]; rfl⟩
    · have space : c = ' ' := last_space rest c (by rw [last]; simp)
      exact ⟨'-' :: ' ' :: spaces, by rw [last, space]; simp⟩
  · cases found

theorem lead_space (line : List Char) (dash : Option Nat) (column : Nat) (lead : leadOf line = .entry dash column) :
    column ≤ line.length ∧ ∀ c ∈ (line.take column).getLast?, c = ' ' := by
  unfold leadOf at lead
  simp only at lead
  split at lead
  · cases lead
  · split at lead
    · cases lead
    · split at lead
      · rename_i width found
        split at lead
        · cases lead
        · rename_i wide
          cases lead
          have inside := ink_end_le line
          refine ⟨by omega, ?_⟩
          obtain ⟨front, spaced⟩ := dash_space _ width found (by rw [List.length_drop]; omega)
          rw [List.take_add, spaced, ← List.append_assoc, List.getLast?_concat]
          exact fun c last => (Option.some.inj last).symm
      · cases lead
        exact ⟨(List.takeWhile_sublist _).length_le, indent_space line⟩

theorem none_apart (line : List Char) : AreApart line [] :=
  ⟨by simp, by simp, List.Pairwise.nil⟩

theorem one_apart (line : List Char) (stretch : Stretch) (inside : stretch.stop ≤ line.length)
    (apart : ∀ c ∈ (line.take stretch.start).getLast?, Text.isWord c = false) : AreApart line [stretch] :=
  ⟨List.forall_mem_singleton.mpr inside, List.forall_mem_singleton.mpr apart, List.pairwise_singleton _ _⟩

theorem scalar_apart (index start : Nat) (line : List Char)
    (apart : ∀ c ∈ (line.take start).getLast?, Text.isWord c = false) : AreApart line [scalarStretch index line start] := by
  have inside := ink_end_le line
  unfold scalarStretch
  simp only
  split
  · rename_i quoted
    simp only [Bool.and_eq_true, Bool.or_eq_true, decide_eq_true_eq] at quoted
    refine one_apart line _ (Nat.le_trans (Nat.sub_le _ _) inside) fun c last => ?_
    have quote : ∃ q, (line.drop start).head? = some q ∧ Text.isWord q = false := by
      rcases quoted.1.2 with single | double
      · exact ⟨_, single, by decide⟩
      · exact ⟨_, double, by decide⟩
    obtain ⟨q, head, plain⟩ := quote
    rw [List.head?_drop] at head
    rw [List.take_add_one, head, Option.toList_some, List.getLast?_concat] at last
    rw [← Option.some.inj last]
    exact plain
  · exact one_apart line _ inside apart

theorem value_apart (text key value : List Char) (entry : plainEntry? text = some (key, value)) :
    ∃ lead c, text = lead ++ c :: value ∧ Text.isWord c = false := by
  obtain ⟨tail, rfl, -, -, colon⟩ := key_of_entry text key value entry
  unfold colonValue? at colon
  split at colon
  · rename_i rest behind
    split at colon
    · obtain rfl := Option.some.inj colon
      have front : tail = tail.takeWhile isGap ++ ':' :: rest := by
        rw [← behind, List.takeWhile_append_dropWhile]
      have back : rest = rest.takeWhile isGap ++ rest.dropWhile isGap := List.takeWhile_append_dropWhile.symm
      rcases List.eq_nil_or_concat (rest.takeWhile isGap) with nothing | ⟨gaps, c, gap⟩
      · rw [nothing] at back
        rw [List.nil_append] at back
        exact ⟨key ++ tail.takeWhile isGap, ':', by rw [List.append_assoc, ← back, ← front], by decide⟩
      · have last : isGap c = true := List.all_eq_true.mp List.all_takeWhile c (by rw [gap]; simp)
        have plain : Text.isWord c = false := by
          rcases Bool.or_eq_true_iff.mp last with space | tab
          · rw [of_decide_eq_true space]
            decide
          · rw [of_decide_eq_true tab]
            decide
        rw [gap, List.concat_eq_append] at back
        refine ⟨key ++ tail.takeWhile isGap ++ ':' :: gaps, c, ?_, plain⟩
        have whole : key ++ tail = key ++ (tail.takeWhile isGap ++ ':' :: (gaps ++ [c] ++ rest.dropWhile isGap)) := by
          rw [← back, ← front]
        rw [whole]
        simp
    · cases colon
  · cases colon

theorem visit_entry_apart (levels : List (Nat × Level)) (index column : Nat) (line : List Char)
    (inside : column ≤ line.length) : AreApart line (visitEntry levels index line column).2.stretches := by
  unfold visitEntry
  simp only
  split
  · exact interpolated_apart index column line inside
  · rename_i key value entry
    split
    · exact none_apart line
    · obtain ⟨lead, c, text, plain⟩ := value_apart _ key value entry
      have start : column + ((line.drop column).length - value.length) = (line.take column ++ (lead ++ [c])).length := by
        rw [text]
        simp only [List.length_append, List.length_cons, List.length_nil, List.length_take, Nat.min_eq_left inside]
        omega
      have split : line = (line.take column ++ (lead ++ [c])) ++ value := by
        have whole := List.take_append_drop column line
        rw [text] at whole
        simpa using whole.symm
      have apart : ∀ d ∈ (line.take (column + ((line.drop column).length - value.length))).getLast?,
          Text.isWord d = false := by
        intro d last
        rw [start, congrArg (List.take _) split, List.take_left' rfl, ← List.append_assoc, List.getLast?_concat] at last
        rw [← Option.some.inj last]
        exact plain
      simp only [valueStretches]
      split
      · exact none_apart line
      · split
        · exact scalar_apart index _ line apart
        · exact interpolated_apart index _ line (by rw [List.length_drop]; omega)

theorem visit_line_apart (levels : List (Nat × Level)) (index : Nat) (line : List Char) :
    AreApart line (visitLine levels index line).2.stretches := by
  rw [visit_line_lead]
  cases lead : leadOf line with
  | entry dash column => exact visit_entry_apart _ index column line (lead_space line dash column lead).1
  | _ => exact none_apart line

theorem visit_apart (place : Place) (index : Nat) (line : List Char) : AreApart line (visit place index line).2.stretches := by
  unfold visit
  split
  · exact visit_line_apart place.levels index line
  · rename_i block _
    split
    · exact none_apart line
    · split
      · have spaces : ∀ c ∈ (line.take (indentOf line)).getLast?, Text.isWord c = false := fun c last => by
          rw [indent_space line c last]
          decide
        simp only [bodyStretches]
        split
        · exact one_apart line _ (ink_end_le line) spaces
        · exact interpolated_apart index _ line (List.takeWhile_sublist _).length_le
      · exact visit_line_apart place.levels index line

/-! ## Calls of a document -/

theorem line_calls_line (place : Place) (index : Nat) (line : List Char) (kind : CallKind) :
    ∀ call ∈ callsIn kind (visit place index line).2.stretches line, call.line = index := by
  intro call member
  obtain ⟨stretch, listed, called⟩ := List.mem_flatMap.mp member
  obtain ⟨form, seen⟩ := visit_form place index line
  rw [seen] at listed
  rw [stretch_calls] at called
  obtain ⟨site, -, rfl⟩ := List.mem_map.mp called
  exact form_stretches_line form index line stretch listed

def CallPlace.IsBefore (first second : CallPlace) : Prop :=
  first.line < second.line ∨ first.line = second.line ∧ first.stop < second.start

theorem through_named (place : Place) (index : Nat) (lines : Lines) (kind : CallKind) (front back : List CallPlace)
    (call : CallPlace) (found : callsThrough kind place index lines = front ++ call :: back) :
    index ≤ call.line ∧ (∃ line before after, lines[call.line - index]? = some line ∧ NamedAt line call before after) ∧
      ∀ earlier ∈ front, earlier.IsBefore call := by
  induction lines generalizing place index front with
  | nil => simp [callsThrough] at found
  | cons line rest ih =>
      have here := line_calls_line place index line kind
      rcases append_split _ _ front back call found with ⟨others, rfl, later⟩ | ⟨others, first, rfl⟩
      · obtain ⟨beyond, ⟨text, before, after, stands, named⟩, order⟩ :=
          ih (visit place index line).1 (index + 1) others later
        have next : call.line - index = call.line - (index + 1) + 1 := by omega
        refine ⟨by omega, ⟨text, before, after, by rw [next, List.getElem?_cons_succ, stands], named⟩, ?_⟩
        refine List.forall_mem_append.mpr ⟨fun earlier member => .inl ?_, order⟩
        rw [here earlier member]
        omega
      · obtain ⟨⟨before, after, named⟩, order⟩ :=
          stretches_call_place _ kind line front others call (visit_apart place index line) first
        rw [first] at here
        have same : call.line = index := here call (by simp)
        refine ⟨Nat.le_of_eq same.symm, ⟨line, before, after, by rw [same, Nat.sub_self]; rfl, named⟩,
          fun earlier member => ?_⟩
        exact .inr ⟨(here earlier (List.mem_append_left _ member)).trans same.symm, order earlier member⟩

theorem call_named (kind : CallKind) (lines : Lines) (front back : List CallPlace) (call : CallPlace)
    (found : (sites lines).calls kind lines = front ++ call :: back) :
    (∃ line before after, lines[call.line]? = some line ∧ NamedAt line call before after) ∧
      ∀ earlier ∈ front, earlier.IsBefore call := by
  rw [calls_through] at found
  exact (through_named {} 0 lines kind front back call found).2

/-! ## Keys -/

structure KeyAt (line : List Char) (site : KeySite) (before after : List Char) : Prop where
  split : line = before ++ (site.key.toList ++ after)
  column : site.column = before.length
  lead : ∃ dash, leadOf line = .entry dash site.column
  behind : ∃ value, KeyTail after value
  whole : IsWhole isKeyCharacter before site.key.toList after

theorem shape_key (block : Option Nat) (line : List Char) (dash : Option Nat) (column : Nat) (key : String) (opens : Bool)
    (shape : shapeOf block line = .entry dash column key opens) :
    leadOf line = .entry dash column ∧ ∃ before after, line = before ++ (key.toList ++ after) ∧ column = before.length ∧
      (∃ value, KeyTail after value) ∧ IsWhole isKeyCharacter before key.toList after := by
  have line_shape : lineShape line = .entry dash column key opens := by
    unfold shapeOf at shape
    split at shape
    · exact shape
    · split at shape
      · cases shape
      · exact shape
  unfold lineShape at line_shape
  split at line_shape
  · cases line_shape
  · cases line_shape
  · cases line_shape
  · rename_i lead
    split at line_shape
    · cases line_shape
    · rename_i letters value entry
      cases line_shape
      obtain ⟨inside, spaced⟩ := lead_space line _ _ lead
      obtain ⟨tail, text, name, behind⟩ := key_of_entry _ letters value entry
      obtain ⟨first, rest, split, starts, keys⟩ := key_name_cases letters name
      refine ⟨lead, line.take column, tail, ?_, (List.length_take_of_le inside).symm, ⟨value, behind⟩, ?_⟩
      · rw [String.toList_ofList, ← text, List.take_append_drop]
      · rw [String.toList_ofList]
        refine ⟨⟨first, rest, split, starts⟩, ?_, fun c last => ?_, behind.ends⟩
        · rw [split]
          exact List.forall_mem_cons.mpr ⟨word_is_key first (Text.isWord_of_isNameStart starts), keys⟩
        · rw [spaced c last]
          decide

theorem visit_key (place : Place) (index : Nat) (line : List Char) (site : KeySite)
    (member : site ∈ (visit place index line).2.keys) : ∃ before after, KeyAt line site before after := by
  rw [(visit_shape place index line).2] at member
  cases shape : shapeOf (place.block.map OpenBlock.column) line with
  | entry dash column key opens =>
      rw [shape] at member
      obtain rfl := List.mem_singleton.mp member
      obtain ⟨lead, before, after, split, start, behind, whole⟩ := shape_key _ line dash column key opens shape
      exact ⟨before, after, split, start, ⟨dash, lead⟩, behind, whole⟩
  | _ =>
      rw [shape] at member
      cases member

theorem key_named (place : Place) (index : Nat) (lines : Lines) (site : KeySite)
    (member : site ∈ (sitesFrom place index lines).keys) :
    index ≤ site.line ∧ ∃ line before after, lines[site.line - index]? = some line ∧ KeyAt line site before after := by
  induction lines generalizing place index with
  | nil => cases member
  | cons line rest ih =>
      simp only [sitesFrom, Sites.append] at member
      rcases List.mem_append.mp member with here | later
      · obtain ⟨before, after, named⟩ := visit_key place index line site here
        have same := visit_keys_line place index line site here
        exact ⟨Nat.le_of_eq same.symm, line, before, after, by rw [same, Nat.sub_self]; rfl, named⟩
      · obtain ⟨beyond, text, before, after, stands, named⟩ := ih (visit place index line).1 (index + 1) later
        have next : site.line - index = site.line - (index + 1) + 1 := by omega
        exact ⟨by omega, text, before, after, by rw [next, List.getElem?_cons_succ, stands], named⟩

end PipelineLint.Repair
