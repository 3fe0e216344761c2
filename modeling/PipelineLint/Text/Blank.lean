set_option autoImplicit false

namespace PipelineLint.Text

def inRanges (ranges : List (Nat × Nat)) (code : Nat) : Bool :=
  ranges.any fun (low, high) => low ≤ code && code ≤ high

def occursIn (part : List Char) : List Char → Bool
  | [] => part.isEmpty
  | c :: rest => part.isPrefixOf (c :: rest) || occursIn part rest

def isBlank (c : Char) : Bool :=
  let code := c.toNat
  (9 ≤ code && code ≤ 13) || (28 ≤ code && code ≤ 32) || code == 133 || code == 160 ||
    code == 5760 || (8192 ≤ code && code ≤ 8202) || code == 8232 || code == 8233 ||
    code == 8239 || code == 8287 || code == 12288

def dropTrailing (drops : Char → Bool) : List Char → List Char
  | [] => []
  | c :: rest =>
      match dropTrailing drops rest with
      | [] => if drops c then [] else [c]
      | kept => c :: kept

def trimLeft (text : List Char) : List Char :=
  text.dropWhile isBlank

def trimRight (text : List Char) : List Char :=
  dropTrailing isBlank text

def trim (text : List Char) : List Char :=
  trimRight (trimLeft text)

def allBlank (text : List Char) : Bool :=
  text.all isBlank

@[simp] theorem dropTrailing_nil (drops : Char → Bool) : dropTrailing drops [] = [] := rfl

theorem dropTrailing_eq_nil_iff (drops : Char → Bool) (text : List Char) :
    dropTrailing drops text = [] ↔ text.all drops = true := by
  induction text with
  | nil => simp
  | cons c rest ih =>
      by_cases blank : dropTrailing drops rest = []
      · by_cases dropped : drops c = true <;> simp_all [dropTrailing]
      · have stays : rest.all drops ≠ true := fun all => blank (ih.mpr all)
        simp [dropTrailing, stays]

theorem dropTrailing_cons_of_ne_nil {drops : Char → Bool} {rest : List Char} (c : Char)
    (kept : dropTrailing drops rest ≠ []) :
    dropTrailing drops (c :: rest) = c :: dropTrailing drops rest := by
  simp only [dropTrailing]

theorem dropTrailing_append_dropped (drops : Char → Bool) (text : List Char) :
    ∃ dropped : List Char, text = dropTrailing drops text ++ dropped ∧ dropped.all drops = true := by
  induction text with
  | nil => exact ⟨[], rfl, rfl⟩
  | cons c rest ih =>
      obtain ⟨dropped, split, all⟩ := ih
      by_cases blank : dropTrailing drops rest = []
      · rw [blank] at split
        by_cases test : drops c = true
        · exact ⟨c :: rest, by simp [dropTrailing, blank, test], by simp_all⟩
        · exact ⟨rest, by simp [dropTrailing, blank, test], by simp_all⟩
      · exact ⟨dropped, by rw [dropTrailing_cons_of_ne_nil c blank, List.cons_append, ← split], all⟩

theorem length_dropTrailing_le (drops : Char → Bool) (text : List Char) :
    (dropTrailing drops text).length ≤ text.length := by
  obtain ⟨dropped, split, _⟩ := dropTrailing_append_dropped drops text
  have := congrArg List.length split
  simp at this
  omega

end PipelineLint.Text
