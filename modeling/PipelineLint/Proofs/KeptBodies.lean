import PipelineLint.Proofs.KeptTexts

set_option autoImplicit false

namespace PipelineLint.Document

open Repair Expression

-- How a line may change: another key where one leads it, or, where calls may, another name in front of a bracket.
inductive Changed (calls : Prop) : List Char → List Char → Prop where
  | key (before name other after value : List Char) (dash : Option Nat) :
      leadOf (before ++ (name ++ after)) = .entry dash before.length → isKeyName name = true → KeyTail after value →
      isWrittenKey other = true → Changed calls (before ++ (name ++ after)) (before ++ (other ++ after))
  | call (before name other after : List Char) : calls → name ≠ [] → (∀ c ∈ name, Text.isWord c = true) → Opens after →
      isWrittenKey other = true → Changed calls (before ++ (name ++ after)) (before ++ (other ++ after))

variable {calls : Prop}

theorem written_no_break (name : List Char) (written : isWrittenKey name = true) : name.any Text.isLineBreak = false := by
  obtain ⟨-, -, -, -, letters⟩ := written_key_letters name written
  exact flat_one_line name fun c member => visible_flat c (key_letter_visible c (letters c member))

theorem lead_cases (line : List Char) (dash : Option Nat) (column : Nat) (lead : leadOf line = .entry dash column) :
    (column = indentOf line ∧ dashWidth? (line.drop (indentOf line)) = none) ∨
      ∃ width, dashWidth? (line.drop (indentOf line)) = some width ∧ column = indentOf line + width := by
  unfold leadOf at lead
  simp only at lead
  split at lead
  · cases lead
  · split at lead
    · cases lead
    · split at lead
      · rename_i width found
        split at lead
        · cases lead
        · cases lead
          exact .inr ⟨width, found, rfl⟩
      · rename_i none_found
        cases lead
        exact .inl ⟨rfl, none_found⟩

-- What may stand in front of a key: blanks, and a dash with a blank behind it.
def IsKeyLead (lead : List Char) : Prop :=
  (∀ c ∈ lead, c = ' ') ∨ ∃ front gap, lead = front ++ '-' :: ' ' :: gap ∧ (∀ c ∈ front, c = ' ') ∧ ∀ c ∈ gap, c = ' '

theorem dash_dropped (rest : List Char) :
    ('-' :: ' ' :: rest).drop (2 + (rest.takeWhile (· = ' ')).length) = rest.dropWhile (· = ' ') := by
  rw [Nat.add_comm, List.drop_succ_cons, List.drop_succ_cons, drop_take_while]

theorem dash_cases (text : List Char) (width : Nat) (dash : dashWidth? text = some width) :
    (text = ['-'] ∧ width = 1) ∨ ∃ rest, text = '-' :: ' ' :: rest ∧ text.drop width = rest.dropWhile (· = ' ') := by
  unfold dashWidth? at dash
  split at dash
  · exact .inl ⟨rfl, (Option.some.inj dash).symm⟩
  · rename_i rest
    obtain rfl := Option.some.inj dash
    exact .inr ⟨rest, rfl, dash_dropped rest⟩
  · cases dash

theorem spaces_dropped (spaces rest : List Char) (c : Char) (blank : ∀ d ∈ spaces, d = ' ') (other : c ≠ ' ') :
    (spaces ++ c :: rest).dropWhile (· = ' ') = c :: rest := by
  rw [List.dropWhile_append_of_pos fun d member => decide_eq_true (blank d member), List.dropWhile_cons_of_neg (by simpa using other)]

theorem leads_key_iff (line : List Char) : leadsKey line = true ↔
    ∃ lead key tail value, line = lead ++ (key ++ tail) ∧ IsKeyLead lead ∧ isKeyName key = true ∧ KeyTail tail value := by
  have whole := List.takeWhile_append_dropWhile (p := fun c => decide (c = ' ')) (l := line)
  constructor
  · intro leads
    unfold leadsKey at leads
    simp only at leads
    split at leads
    · rename_i width dash
      obtain ⟨⟨key, value⟩, entry⟩ := Option.isSome_iff_exists.mp leads
      obtain ⟨tail, split, named, behind⟩ := key_of_entry _ key value entry
      rcases dash_cases _ width dash with ⟨alone, rfl⟩ | ⟨rest, ink, dropped⟩
      · rw [alone] at entry
        cases entry
      · have gap := List.takeWhile_append_dropWhile (p := fun c => decide (c = ' ')) (l := rest)
        refine ⟨line.takeWhile (· = ' ') ++ '-' :: ' ' :: rest.takeWhile (· = ' '), key, tail, value, ?_,
          .inr ⟨_, _, rfl, spaces_of_run line, spaces_of_run rest⟩, named, behind⟩
        rw [← split, dropped, List.append_assoc, List.cons_append, List.cons_append, gap, ← ink, whole]
    · obtain ⟨⟨key, value⟩, entry⟩ := Option.isSome_iff_exists.mp leads
      obtain ⟨tail, split, named, behind⟩ := key_of_entry _ key value entry
      exact ⟨_, key, tail, value, by rw [← split, whole], .inl (spaces_of_run line), named, behind⟩
  · rintro ⟨lead, key, tail, value, rfl, led, named, behind⟩
    have entry := entry_of_key key tail value named behind
    obtain ⟨c, rest, rfl, starts, -⟩ := key_name_cases key named
    have no_space := Text.name_start_ne c ' ' starts (by decide)
    have no_dash := Text.name_start_ne c '-' starts (by decide)
    unfold leadsKey
    rcases led with spaces | ⟨front, gap, rfl, spaces, blank⟩
    · rw [List.cons_append] at entry ⊢
      rw [spaces_dropped lead _ c spaces no_space]
      simp [dashWidth?, no_dash, entry]
    · have dropped := dash_dropped (gap ++ (c :: rest ++ tail))
      rw [List.cons_append] at entry dropped ⊢
      rw [spaces_dropped gap _ c blank no_space] at dropped
      rw [List.append_assoc, List.cons_append, List.cons_append, spaces_dropped front _ '-' spaces (by decide)]
      simp only [dashWidth?, dropped, entry, Option.isSome_some]

theorem key_lead_no_bracket (lead : List Char) (led : IsKeyLead lead) : '(' ∉ lead := by
  intro member
  rcases led with spaces | ⟨front, gap, rfl, spaces, blank⟩
  · exact absurd (spaces '(' member) (by decide)
  · simp only [List.mem_append, List.mem_cons] at member
    rcases member with front | dash | space | gap
    · exact absurd (spaces '(' front) (by decide)
    · exact absurd dash (by decide)
    · exact absurd space (by decide)
    · exact absurd (blank '(' gap) (by decide)

theorem key_name_no_bracket (name : List Char) (named : isKeyName name = true) : '(' ∉ name := by
  obtain ⟨c, rest, rfl, starts, letters⟩ := key_name_cases name named
  rintro (_ | ⟨_, inside⟩)
  · cases starts
  · exact absurd (letters '(' inside) (by decide)

theorem bracket_before (after more rest : List Char) (opens : Opens after) (split : after = more ++ ':' :: rest) : '(' ∈ more := by
  obtain ⟨blanks, inner, rfl, blank⟩ := opens
  rcases append_split more (':' :: rest) blanks inner '(' split.symm with ⟨others, rfl, later⟩ | ⟨others, rfl, -⟩
  · cases others with
    | nil => cases later
    | cons c others =>
        have colon := blank ':' (by rw [(List.cons.inj later).1]; simp)
        cases colon
  · simp

-- A call with another name leads no key where the call led none: the colon behind a key stands in front of the name.
theorem call_leads_key (before name other after : List Char) (opens : Opens after) (target : isWrittenKey other = true)
    (leads : leadsKey (before ++ (other ++ after)) = true) : leadsKey (before ++ (name ++ after)) = true := by
  obtain ⟨lead, key, tail, value, split, led, named, behind⟩ := (leads_key_iff _).mp leads
  obtain ⟨gap, rest, rfl, gaps, wide⟩ := key_tail_colon tail value behind
  obtain ⟨d, more, rfl, -, letters⟩ := written_key_letters other target
  rcases append_split before _ (lead ++ (key ++ gap)) rest ':' (by simpa using split) with ⟨inside, front, later⟩ | ⟨inside, rfl, rfl⟩
  · have bracket : '(' ∈ inside := by
      rcases append_split (d :: more) after inside rest ':' later with ⟨others, rfl, tail⟩ | ⟨others, word, -⟩
      · exact List.mem_append_right _ (bracket_before after others rest opens tail)
      · exact absurd (letters ':' (word ▸ by simp)) (by decide)
    have member : '(' ∈ lead ++ (key ++ gap) := front ▸ List.mem_append_right _ bracket
    rcases List.mem_append.mp member with ahead | member
    · exact absurd ahead (key_lead_no_bracket lead led)
    · rcases List.mem_append.mp member with inside | inside
      · exact absurd inside (key_name_no_bracket key named)
      · exact absurd (gaps '(' inside) (by decide)
  · cases inside with
    | nil =>
        have gap : isGap d = true := wide
        have letter := letters d List.mem_cons_self
        rcases Bool.or_eq_true_iff.mp gap with same | same <;> rw [of_decide_eq_true same] at letter <;> cases letter
    | cons c inside =>
        have tail := key_tail_gap gap (c :: inside ++ (name ++ after)) gaps wide
        exact (leads_key_iff _).mpr ⟨lead, key, _, _, by simp, led, named, tail⟩

theorem lead_leads_key (before rest : List Char) (dash : Option Nat) (lead : leadOf (before ++ rest) = .entry dash before.length)
    (entry : ( plainEntry? rest).isSome = true) : leadsKey (before ++ rest) = true := by
  have ink : (before ++ rest).drop (indentOf (before ++ rest)) = (before ++ rest).dropWhile (· = ' ') :=
    drop_take_while (before ++ rest) fun c => decide (c = ' ')
  unfold leadsKey
  rcases lead_cases _ dash before.length lead with ⟨here, no_dash⟩ | ⟨width, found, here⟩
  · rw [← here, List.drop_left] at ink no_dash
    simp only [← ink, no_dash, entry]
  · rw [ink] at found
    have behind : ((before ++ rest).dropWhile (· = ' ')).drop width = rest := by
      rw [← ink, List.drop_drop, ← here, List.drop_left]
    simp only [found, behind, entry]

theorem indented_leads_key (depth : Nat) (line : List Char) : leadsKey (indented depth line) = leadsKey line := by
  unfold indented
  split
  · rename_i empty
    rw [empty]
  · unfold leadsKey
    rw [List.dropWhile_append_of_pos fun c member => decide_eq_true (List.eq_of_mem_replicate member)]

-- A line in which a call has another name.
inductive Called (calls : Prop) : List Char → List Char → Prop where
  | call (before name other after : List Char) : calls → name ≠ [] → (∀ c ∈ name, Text.isWord c = true) → Opens after →
      isWrittenKey other = true → Called calls (before ++ (name ++ after)) (before ++ (other ++ after))

theorem behind_spaces (column : Nat) (text before name after : List Char) (ink : name ≠ [])
    (letters : ∀ c ∈ name, Text.isWord c = true) (split : List.replicate column ' ' ++ text = before ++ (name ++ after)) :
    ∃ inside, before = List.replicate column ' ' ++ inside ∧ text = inside ++ (name ++ after) := by
  rcases List.append_eq_append_iff.mp split with ⟨inside, here, later⟩ | ⟨inside, here, later⟩
  · exact ⟨inside, here, later⟩
  · cases inside with
    | nil => exact ⟨[], by simpa using here.symm, by simpa using later.symm⟩
    | cons c inside =>
        obtain ⟨d, rest, rfl⟩ := List.exists_cons_of_ne_nil ink
        have space : c = ' ' := List.eq_of_mem_replicate (show c ∈ List.replicate column ' ' by rw [here]; simp)
        have word := letters d List.mem_cons_self
        rw [(List.cons.inj later).1, space] at word
        cases word

theorem indented_changed (depth : Nat) (line next : List Char) (free : leadsKey line = false)
    (changed : Changed calls (indented depth line) next) : ∃ new, Called calls line new ∧ next = indented depth new := by
  generalize whole : indented depth line = old at changed
  cases changed with
  | key before name other after value dash lead named behind _ =>
      have leads := lead_leads_key before _ dash lead (by rw [entry_of_key name after value named behind]; rfl)
      rw [← whole, indented_leads_key, free] at leads
      cases leads
  | call before name other after allowed ink letters opens target =>
      have some_line : line ≠ [] := by
        rintro rfl
        simp [indented, ink] at whole
      rw [indented, if_neg some_line] at whole
      obtain ⟨inside, rfl, rfl⟩ := behind_spaces depth line before name after ink letters whole
      refine ⟨_, .call inside name other after allowed ink letters opens target, ?_⟩
      rw [indented, if_neg (by simp [List.ne_nil_of_mem (opens_bracket after opens)]), List.append_assoc]

section Called

variable {line new : List Char} (called : Called calls line new)

include called

theorem called_bracket : calls ∧ '(' ∈ line ∧ '(' ∈ new := by
  cases called with
  | call before name other after allowed _ _ opens _ =>
      have bracket := opens_bracket after opens
      exact ⟨allowed, by simp [bracket], by simp [bracket]⟩

theorem called_free (free : leadsKey line = false) : leadsKey new = false := by
  cases called with
  | call before name other after _ _ _ opens target =>
      cases leads : leadsKey (before ++ (other ++ after)) with
      | false => rfl
      | true =>
          rw [call_leads_key before name other after opens target leads] at free
          cases free

theorem called_flat (flat : ∀ c ∈ line, isFlat c = true) : ∀ c ∈ new, isFlat c = true := by
  cases called with
  | call before name other after _ _ _ _ target =>
      obtain ⟨-, -, -, -, letters⟩ := written_key_letters other target
      have word : ∀ c ∈ other, isFlat c = true := fun c member => visible_flat c (key_letter_visible c (letters c member))
      simp only [List.forall_mem_append] at flat ⊢
      exact ⟨flat.1, word, flat.2.2⟩

theorem called_first (c : Char) (rest : List Char) (starts : line = c :: rest) (visible : c ≠ ' ') :
    ∃ d more, new = d :: more ∧ d ≠ ' ' := by
  cases called with
  | call before name other after _ _ _ _ target =>
      cases before with
      | nil =>
          obtain ⟨d, more, rfl, first, -⟩ := written_key_letters other target
          exact ⟨d, more ++ after, rfl, Text.name_start_ne d ' ' first (by decide)⟩
      | cons b before => exact ⟨b, _, rfl, (List.cons.inj starts).1 ▸ visible⟩

end Called

theorem block_lines_called (lines : List (List Char)) (index : Nat) (line new : List Char) (body : BlockLines lines)
    (stands : lines[index]? = some line) (called : Called calls line new) : BlockLines (lines.set index new) := by
  obtain ⟨flat, ink, ⟨c, rest, others, rfl, visible⟩, last⟩ := body
  have member := List.mem_of_getElem? stands
  obtain ⟨-, -, bracket⟩ := called_bracket called
  refine ⟨fun held inside => ?_, fun held inside some_text => ?_, ?_, ?_⟩
  · rcases List.mem_or_eq_of_mem_set inside with old | rfl
    · exact flat held old
    · exact called_flat called (flat line member)
  · rcases List.mem_or_eq_of_mem_set inside with old | rfl
    · exact ink held old some_text
    · exact ⟨'(', bracket, by decide⟩
  · cases index with
    | zero =>
        obtain ⟨d, more, rfl, first⟩ := called_first called c rest (Option.some.inj stands).symm visible
        exact ⟨d, more, others, rfl, first⟩
    | succ index => exact ⟨c, rest, others.set index new, rfl, visible⟩
  · obtain ⟨held, ends, some_text⟩ := last
    rw [List.getLast?_eq_getElem?] at ends ⊢
    rw [List.length_set, List.getElem?_set]
    split
    · rename_i same
      rw [if_pos (same ▸ (List.getElem?_eq_some_iff.mp stands).1)]
      exact ⟨new, rfl, List.ne_nil_of_mem bracket⟩
    · exact ⟨held, ends, some_text⟩

theorem joined_holds (lines : List (List Char)) (line : List Char) (member : line ∈ lines) (c : Char) (inside : c ∈ line) :
    c ∈ Text.joinFeeds lines := by
  induction lines with
  | nil => cases member
  | cons first lines ih =>
      cases lines with
      | nil =>
          rw [List.mem_singleton] at member
          rwa [Text.joinFeeds_singleton, ← member]
      | cons next lines =>
          rw [Text.joinFeeds_cons_cons, List.mem_append]
          rcases List.mem_cons.mp member with rfl | later
          · exact .inl inside
          · exact .inr (List.mem_cons_of_mem _ (ih later))

theorem fold_after_holds (before : List Char) (lines : List (List Char)) (line : List Char) (member : line ∈ lines) (c : Char)
    (inside : c ∈ line) : c ∈ foldAfter before lines := by
  induction lines generalizing before with
  | nil => cases member
  | cons first lines ih =>
      rw [foldAfter, List.mem_append]
      rcases List.mem_cons.mp member with rfl | later
      · left
        rw [if_neg (List.ne_nil_of_mem inside)]
        split
        · exact inside
        · split <;> exact List.mem_cons_of_mem _ inside
      · exact .inr (ih first later)

theorem content_holds (folds : Bool) (chomp : Chomp) (lines : List (List Char)) (blanks : Nat) (line : List Char)
    (member : line ∈ lines) (c : Char) (inside : c ∈ line) : c ∈ blockContent folds chomp lines blanks := by
  refine List.mem_append_left _ ?_
  cases folds with
  | false => exact joined_holds lines line member c inside
  | true =>
      cases lines with
      | nil => cases member
      | cons first lines =>
          rw [if_pos rfl, foldLines, List.mem_append]
          rcases List.mem_cons.mp member with rfl | later
          · exact .inl inside
          · exact .inr (fold_after_holds first lines line later c inside)

theorem block_text_changed (s : String) (mark : List Char) (lines : List (List Char)) (text : BlockText s mark lines)
    (depth index : Nat) (line next : List Char) (stands : (lines.map (indented depth))[index]? = some line)
    (changed : Changed calls line next) :
    ∃ t others, BlockText t mark others ∧ Alike calls (.str s) (.str t) ∧
      (lines.map (indented depth)).set index next = others.map (indented depth) := by
  cases text with
  | lines folds chomp lines blanks body free =>
      rw [List.getElem?_map] at stands
      obtain ⟨old, held, rfl⟩ := Option.map_eq_some_iff.mp stands
      have unkeyed : leadsKey old = false := by
        rcases List.mem_append.mp (List.mem_of_getElem? held) with inside | blank
        · exact free old inside
        · rw [List.eq_of_mem_replicate blank]
          rfl
      obtain ⟨new, called, rfl⟩ := indented_changed depth old next unkeyed changed
      obtain ⟨allowed, bracket, again⟩ := called_bracket called
      have reach : index < lines.length := by
        refine Nat.lt_of_not_le fun behind => ?_
        rw [List.getElem?_append_right behind] at held
        rw [List.eq_of_mem_replicate (List.mem_of_getElem? held)] at bracket
        cases bracket
      rw [List.getElem?_append_left reach] at held
      refine ⟨_, _, .lines folds chomp (lines.set index new) blanks (block_lines_called lines index old new body held called) ?_, ?_, ?_⟩
      · intro line member
        rcases List.mem_or_eq_of_mem_set member with inside | rfl
        · exact free line inside
        · exact called_free called unkeyed
      · refine .text allowed ?_ ?_
        · rw [String.toList_ofList]
          exact content_holds folds chomp lines blanks old (List.mem_of_getElem? held) '(' bracket
        · rw [String.toList_ofList]
          exact content_holds folds chomp _ blanks new (List.mem_set reach new) '(' again
      · rw [← List.set_append_left index new reach, List.map_set]

end PipelineLint.Document
