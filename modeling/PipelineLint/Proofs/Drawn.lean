import Mathlib
import PipelineLint.Document.Block
import PipelineLint.Proofs.WrittenText

set_option autoImplicit false

namespace PipelineLint

namespace Text

def isInk (c : Char) : Bool :=
  !isBlank c

-- Two texts that start with the same word, where the words of the first one are among those of the second, in order.
structure Aligned (text source : List Char) : Prop where
  word : text.takeWhile isInk = source.takeWhile isInk
  order : List.Sublist (text.filter isInk) (source.filter isInk)

-- Whatever a text says from any place on, its source says it too, up to the next blank, and the rest somewhere behind.
def Drawn (text source : List Char) : Prop :=
  ∀ rest, rest <:+ text → ∃ found, found <:+ source ∧ Aligned rest found

theorem drawn_trans (text middle source : List Char) (inner : Drawn text middle) (outer : Drawn middle source) :
    Drawn text source := by
  intro rest suffix
  obtain ⟨between, below, first⟩ := inner rest suffix
  obtain ⟨found, inside, second⟩ := outer between below
  exact ⟨found, inside, first.word.trans second.word, first.order.trans second.order⟩

theorem drawn_suffix (text source : List Char) (suffix : text <:+ source) : Drawn text source :=
  fun rest inner => ⟨rest, inner.trans suffix, rfl, List.Sublist.refl _⟩

theorem drawn_refl (text : List Char) : Drawn text text :=
  drawn_suffix text text (List.suffix_refl text)

theorem drawn_nil (source : List Char) : Drawn [] source :=
  drawn_suffix [] source (List.nil_suffix)

theorem aligned_blank (c d : Char) (text source : List Char) (blank : isBlank c = true) (other : isBlank d = true)
    (order : List.Sublist (text.filter isInk) (source.filter isInk)) : Aligned (c :: text) (d :: source) := by
  constructor
  · simp [isInk, blank, other]
  · simpa [isInk, blank, other] using order

theorem drawn_order (text source : List Char) (drawn : Drawn text source) :
    List.Sublist (text.filter isInk) (source.filter isInk) := by
  obtain ⟨found, suffix, aligned⟩ := drawn text (List.suffix_refl text)
  exact aligned.order.trans (suffix.sublist.filter isInk)

theorem word_before_blank (text rest : List Char) (c : Char) (blank : isBlank c = true) :
    (text ++ c :: rest).takeWhile isInk = text.takeWhile isInk := by
  induction text with
  | nil => simp [isInk, blank]
  | cons first text ih =>
      rw [List.cons_append, List.takeWhile_cons, List.takeWhile_cons, ih]

theorem drawn_join (first second front back : List Char) (c d : Char) (blank : isBlank c = true) (other : isBlank d = true)
    (one : Drawn first front) (two : Drawn second back) : Drawn (first ++ c :: second) (front ++ d :: back) := by
  have behind := drawn_order second back two
  rintro rest ⟨lead, split⟩
  rcases List.append_eq_append_iff.mp split with ⟨part, rfl, rfl⟩ | ⟨more, -, tail⟩
  · obtain ⟨found, ⟨before, rfl⟩, aligned⟩ := one part (List.suffix_append lead part)
    refine ⟨found ++ d :: back, ⟨before, by rw [List.append_assoc]⟩, ?_, ?_⟩
    · rw [word_before_blank part second c blank, word_before_blank found back d other, aligned.word]
    · simp only [List.filter_append, isInk, List.filter_cons, blank, other, Bool.not_true, Bool.false_eq_true, if_false]
      exact aligned.order.append behind
  · have suffix : rest <:+ c :: second := ⟨more, tail.symm⟩
    rcases List.suffix_cons_iff.mp suffix with rfl | inside
    · exact ⟨d :: back, List.suffix_append front _, aligned_blank c d second back blank other behind⟩
    · obtain ⟨found, below, aligned⟩ := two rest inside
      exact ⟨found, below.trans ((List.suffix_cons d back).trans (List.suffix_append front _)), aligned⟩

def StartsBlank (text : List Char) : Prop :=
  ∀ c ∈ text.head?, isBlank c = true

theorem drawn_cut (text rest : List Char) (blank : StartsBlank rest) : Drawn text (text ++ rest) := by
  cases rest with
  | nil =>
      rw [List.append_nil]
      exact drawn_refl text
  | cons c rest =>
      have first : isBlank c = true := blank c rfl
      rintro part ⟨lead, rfl⟩
      refine ⟨part ++ c :: rest, ⟨lead, by rw [List.append_assoc]⟩, (word_before_blank part rest c first).symm, ?_⟩
      rw [List.filter_append]
      exact List.sublist_append_left _ _

theorem drawn_trim_right (text : List Char) : Drawn (trimRight text) text := by
  obtain ⟨dropped, split, blank⟩ := dropTrailing_append_dropped isBlank text
  have whole : text = trimRight text ++ dropped := split
  have cut := drawn_cut (trimRight text) dropped fun c first =>
    List.all_eq_true.mp blank c (List.mem_of_mem_head? first)
  rwa [← whole] at cut

theorem drawn_trim (text : List Char) : Drawn (trim text) text :=
  drawn_trans _ _ _ (drawn_trim_right (trimLeft text)) (drawn_suffix _ _ (List.dropWhile_suffix _))

theorem drawn_cons (c : Char) (text source : List Char) (aligned : Aligned (c :: text) source) (behind : Drawn text source) :
    Drawn (c :: text) source := by
  intro rest suffix
  rcases List.suffix_cons_iff.mp suffix with rfl | inside
  · exact ⟨source, List.suffix_refl source, aligned⟩
  · exact behind rest inside

theorem aligned_cons (c : Char) (text source : List Char) (aligned : Aligned text source) : Aligned (c :: text) (c :: source) := by
  constructor
  · rw [List.takeWhile_cons, List.takeWhile_cons, aligned.word]
  · simp only [List.filter_cons]
    split
    · exact aligned.order.cons_cons c
    · exact aligned.order

-- Both are shown together: a text from its first character on is aligned with its source, and drawn from it.
theorem expanded_drawn (width column : Nat) (some_width : 0 < width) (text : List Char) :
    Aligned (expandTabs width column text) text ∧ Drawn (expandTabs width column text) text := by
  induction text generalizing column with
  | nil => exact ⟨⟨rfl, List.Sublist.refl _⟩, drawn_refl _⟩
  | cons c rest ih =>
      rw [expandTabs]
      split
      · rename_i tab
        rw [tab]
        obtain ⟨same, behind⟩ := ih (column + (width - column % width))
        have spaces (count : Nat) : Aligned (List.replicate (count + 1) ' ' ++ expandTabs width (column + (width - column % width)) rest)
            ('\t' :: rest) := by
          rw [List.replicate_succ, List.cons_append]
          refine aligned_blank ' ' '\t' _ rest (by decide) (by decide) ?_
          rw [List.filter_append, List.filter_replicate_of_neg (by decide), List.nil_append]
          exact same.order
        have every (count : Nat) : Drawn (List.replicate count ' ' ++ expandTabs width (column + (width - column % width)) rest)
            ('\t' :: rest) := by
          induction count with
          | zero => exact drawn_trans _ _ _ behind (drawn_suffix _ _ (List.suffix_cons '\t' rest))
          | succ count ih => exact drawn_cons ' ' _ _ (spaces count) ih
        have some_space : 0 < width - column % width := Nat.sub_pos_of_lt (Nat.mod_lt column some_width)
        obtain ⟨count, counted⟩ := Nat.exists_eq_add_one.mpr some_space
        refine ⟨?_, every _⟩
        rw [counted]
        rw [counted] at spaces
        exact spaces count
      · obtain ⟨same, behind⟩ := ih (column + 1)
        have aligned := aligned_cons c _ _ same
        exact ⟨aligned, drawn_cons c _ _ aligned (drawn_trans _ _ _ behind (drawn_suffix _ _ (List.suffix_cons c rest)))⟩

def ended (lines : List (List Char)) : List Char :=
  lines.flatMap (· ++ ['\n'])

theorem drawn_feed (c : Char) (text source : List Char) (blank : isBlank c = true)
    (order : List.Sublist (text.filter isInk) (source.filter isInk)) (behind : Drawn text source) :
    Aligned ('\n' :: text) (c :: source) ∧ Drawn ('\n' :: text) (c :: source) := by
  have aligned := aligned_blank '\n' c text source (by decide) blank order
  exact ⟨aligned, drawn_cons _ _ _ aligned (drawn_trans _ _ _ behind (drawn_suffix _ _ (List.suffix_cons c source)))⟩

theorem split_lines_drawn (text : List Char) : Aligned (ended (splitLines text)) text ∧ Drawn (ended (splitLines text)) text := by
  induction text using splitLines.induct with
  | case1 => exact ⟨⟨rfl, List.Sublist.refl _⟩, drawn_refl _⟩
  | case2 rest ih =>
      rw [splitLines]
      have order : List.Sublist ((ended (splitLines rest)).filter isInk) (('\n' :: rest).filter isInk) := by
        simpa [isInk, (by decide : isBlank '\n' = true)] using ih.1.order
      exact drawn_feed '\r' _ _ (by decide) order (drawn_trans _ _ _ ih.2 (drawn_suffix _ _ (List.suffix_cons '\n' rest)))
  | case3 c rest no_pair boundary ih =>
      rw [splitLines, if_pos boundary]
      · exact drawn_feed c _ rest (isBlank_of_isLineBreak boundary) ih.1.order ih.2
      · exact no_pair
  | case4 c rest no_pair inside ih =>
      rw [splitLines, if_neg inside]
      swap
      · exact no_pair
      cases lines : splitLines rest with
      | nil =>
          rw [lines] at ih
          have first : Aligned ['\n'] rest := ⟨ih.1.word, List.nil_sublist _⟩
          have last : Drawn ['\n'] (c :: rest) := drawn_trans _ _ _
            (drawn_cons '\n' [] [] ⟨rfl, List.Sublist.refl _⟩ (drawn_refl [])) (drawn_nil _)
          exact ⟨aligned_cons c _ _ first, drawn_cons c _ _ (aligned_cons c _ _ first) last⟩
      | cons line others =>
          rw [lines] at ih
          have aligned := aligned_cons c _ _ ih.1
          exact ⟨aligned, drawn_cons c _ _ aligned (drawn_trans _ _ _ ih.2 (drawn_suffix _ _ (List.suffix_cons c rest)))⟩

end Text

namespace Document

open Text

theorem drawn_strip (text : List Char) : Drawn (stripComment text) text := by
  unfold stripComment
  split
  · rename_i kept found
    obtain ⟨rest, -, rfl, -, sign⟩ := before_comment_outside none none text kept found
    rw [Option.or_none] at sign
    rcases List.eq_nil_or_concat' kept with rfl | ⟨front, c, rfl⟩
    · exact drawn_nil _
    · have blank : isBlank c = true := by
        simp only [List.getLast?_concat, opensComment, Bool.or_eq_true, decide_eq_true_eq] at sign
        rcases sign with rfl | rfl <;> decide
      rw [trim_right_blanks front [c] (by simp [blank]), List.append_assoc]
      refine drawn_trans _ _ _ (drawn_trim_right front) (drawn_cut front _ ?_)
      rintro _ ⟨⟩
      exact blank
  · exact drawn_refl text

def joined (lines : List Line) : List Char :=
  lines.flatMap fun line => line.body ++ ['\n']

theorem joined_cons (line : Line) (rest : List Line) : joined (line :: rest) = line.body ++ '\n' :: joined rest := by
  simp [joined]

theorem joined_suffix (short long : List Line) (suffix : short <:+ long) : joined short <:+ joined long := by
  obtain ⟨front, rfl⟩ := suffix
  exact ⟨joined front, by simp [joined]⟩

theorem after_dash_suffix (line item : Line) (behind : line.afterDash? = some item) : item.body <:+ line.body := by
  unfold Line.afterDash? at behind
  split at behind
  · cases behind
    exact (List.dropWhile_suffix _).trans ((List.drop_suffix _ _).trans (List.dropWhile_suffix _))
  · cases behind

def goingOn (text : List Char) (lines : List Line) : List Char :=
  text ++ '\n' :: joined lines

theorem going_on_drawn (text source : List Char) (lines others : List Line) (drawn : Drawn text source)
    (suffix : lines <:+ others) : Drawn (goingOn text lines) (goingOn source others) :=
  drawn_join _ _ _ _ '\n' '\n' (by decide) (by decide) drawn (drawn_suffix _ _ (joined_suffix lines others suffix))

theorem going_on_front (text : List Char) (lines : List Line) : Drawn text (goingOn text lines) := by
  refine drawn_cut text _ ?_
  rintro _ ⟨⟩
  decide

theorem gathered_drawn (piece : Line → List Char) (said : ∀ line, Drawn (piece line) line.body) (text : List Char)
    (lines : List Line) : Drawn (gather piece text lines).1 (goingOn text lines) := by
  induction lines generalizing text with
  | nil => exact going_on_front text []
  | cons line rest ih =>
      rw [gather]
      split
      · refine drawn_trans _ _ _ (ih _) ?_
        unfold goingOn
        rw [joined_cons, List.append_assoc, List.cons_append]
        refine drawn_join _ _ _ _ ' ' '\n' (by decide) (by decide) (drawn_refl text) ?_
        exact drawn_join _ _ _ _ '\n' '\n' (by decide) (by decide) (said line) (drawn_refl _)
      · exact going_on_front text (line :: rest)

theorem continued_drawn (parent : Nat) (text : List Char) (lines : List Line) :
    Drawn ([' '].intercalate (text :: (takeContinuation parent lines).1)) (goingOn text lines) := by
  have alone (lines : List Line) (text : List Char) : Drawn ([' '].intercalate [text]) (goingOn text lines) := by
    simpa [List.intercalate] using going_on_front text lines
  induction lines generalizing text with
  | nil => exact alone [] text
  | cons line rest ih =>
      rw [takeContinuation]
      split
      · refine drawn_trans _ _ _ (ih text) (going_on_drawn text text rest _ (drawn_refl text) (List.suffix_cons line rest))
      · split
        · exact alone (line :: rest) text
        · have said : Drawn (stripComment line.content) line.body := drawn_trans _ _ _ (drawn_strip _) (drawn_trim _)
          have behind := drawn_trans _ _ _ (ih (stripComment line.content)) (going_on_drawn _ _ rest rest said (List.suffix_refl rest))
          unfold goingOn
          rw [joined_cons]
          exact drawn_join _ _ _ _ ' ' '\n' (by decide) (by decide) (drawn_refl text) behind

theorem lines_drawn (text : List Char) : Drawn (joined (linesOf text)) text := by
  refine drawn_trans _ _ _ ?_ (split_lines_drawn text).2
  unfold linesOf
  induction splitLines text with
  | nil => exact drawn_refl _
  | cons line lines ih =>
      have flat : Drawn (Line.ofText line).body line :=
        drawn_trans _ _ _ (drawn_suffix _ _ (List.dropWhile_suffix _)) (expanded_drawn Line.tabWidth 0 (by decide) line).2
      rw [List.map_cons, joined_cons]
      have whole := drawn_join _ _ _ _ '\n' '\n' (by decide) (by decide) flat ih
      simpa [ended] using whole

end Document
end PipelineLint
