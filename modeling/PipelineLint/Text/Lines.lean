import PipelineLint.Text.Blank

set_option autoImplicit false

namespace PipelineLint.Text

def isLineBreak (c : Char) : Bool :=
  let code := c.toNat
  (10 ≤ code && code ≤ 13) || (28 ≤ code && code ≤ 30) || code == 133 || code == 8232 ||
    code == 8233

def consLine (c : Char) : List (List Char) → List (List Char)
  | [] => [[c]]
  | line :: lines => (c :: line) :: lines

-- The lines of a text, without their boundaries; a return and a line feed are one boundary.
def splitLines : List Char → List (List Char)
  | [] => []
  | '\r' :: '\n' :: rest => [] :: splitLines rest
  | c :: rest => if isLineBreak c then [] :: splitLines rest else consLine c (splitLines rest)

def splitFeeds : List Char → List (List Char)
  | [] => [[]]
  | c :: rest => if c = '\n' then [] :: splitFeeds rest else consLine c (splitFeeds rest)

def joinFeeds (lines : List (List Char)) : List Char :=
  ['\n'].intercalate lines

def unifyBreaks : List Char → List Char
  | [] => []
  | '\r' :: '\n' :: rest => '\n' :: unifyBreaks rest
  | '\r' :: rest => '\n' :: unifyBreaks rest
  | c :: rest => c :: unifyBreaks rest

-- Spaces in place of tabs, up to the next column that is a multiple of `width`.
def expandTabs (width : Nat) : (column : Nat) → List Char → List Char
  | _, [] => []
  | column, c :: rest =>
      if c = '\t' then
        let step := width - column % width
        List.replicate step ' ' ++ expandTabs width (column + step) rest
      else c :: expandTabs width (column + 1) rest

theorem isBlank_of_isLineBreak {c : Char} (boundary : isLineBreak c = true) : isBlank c = true := by
  simp only [isLineBreak, Bool.or_eq_true, Bool.and_eq_true, decide_eq_true_eq, beq_iff_eq]
    at boundary
  simp only [isBlank, Bool.or_eq_true, Bool.and_eq_true, decide_eq_true_eq, beq_iff_eq]
  omega

theorem splitFeeds_ne_nil (text : List Char) : splitFeeds text ≠ [] := by
  cases text with
  | nil => simp [splitFeeds]
  | cons c rest =>
      simp only [splitFeeds]
      split
      · simp
      · cases splitFeeds rest <;> simp [consLine]

@[simp] theorem joinFeeds_singleton (line : List Char) : joinFeeds [line] = line := by
  simp [joinFeeds, List.intercalate]

theorem joinFeeds_cons_cons (line next : List Char) (lines : List (List Char)) :
    joinFeeds (line :: next :: lines) = line ++ '\n' :: joinFeeds (next :: lines) := by
  simp [joinFeeds, List.intercalate]

theorem joinFeeds_consLine (c : Char) {lines : List (List Char)} (some_line : lines ≠ []) :
    joinFeeds (consLine c lines) = c :: joinFeeds lines := by
  cases lines with
  | nil => contradiction
  | cons line others => cases others <;> simp [joinFeeds, consLine, List.intercalate]

theorem joinFeeds_splitFeeds (text : List Char) : joinFeeds (splitFeeds text) = text := by
  induction text with
  | nil => rfl
  | cons c rest ih =>
      by_cases feed : c = '\n'
      · subst feed
        cases parts : splitFeeds rest with
        | nil => exact absurd parts (splitFeeds_ne_nil rest)
        | cons line others =>
            rw [parts] at ih
            simp only [splitFeeds, if_true, parts]
            rw [← ih]
            simp [joinFeeds, List.intercalate]
      · simp only [splitFeeds, if_neg feed]
        rw [joinFeeds_consLine c (splitFeeds_ne_nil rest), ih]

end PipelineLint.Text
