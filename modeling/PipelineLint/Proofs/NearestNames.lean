import PipelineLint.Name.Nearest
import PipelineLint.Proofs.LeastEdits

set_option autoImplicit false

namespace PipelineLint

theorem Text.occurs_in_iff (part text : List Char) : occursIn part text = true ↔ part <:+: text := by
  induction text with
  | nil => simp [occursIn]
  | cons c rest ih => simp [occursIn, ih, List.infix_cons_iff]

namespace Name

theorem mem_distinct {α : Type} [BEq α] [LawfulBEq α] (xs : List α) (x : α) : x ∈ distinct xs ↔ x ∈ xs := by
  induction xs with
  | nil => rfl
  | cons y rest ih =>
      by_cases same : x = y
      · simp [distinct, same]
      · simp [distinct, same, ih]

theorem distinct_ordered {α : Type} [BEq α] [LawfulBEq α] (xs : List α) :
    (distinct xs).Pairwise fun x y => xs.idxOf x < xs.idxOf y := by
  induction xs with
  | nil => exact .nil
  | cons x rest ih =>
      have later (y : α) (member : y ∈ (distinct rest).filter (· != x)) : (x :: rest).idxOf y = rest.idxOf y + 1 := by
        have other : y ≠ x := by simpa using (List.mem_filter.mp member).2
        rw [List.idxOf_cons, beq_false_of_ne other.symm, cond_false]
      refine List.pairwise_cons.mpr ⟨fun y member => ?_, ?_⟩
      · rw [later y member, List.idxOf_cons_self]
        omega
      · refine (ih.filter (· != x)).imp_of_mem fun {y z} first second less => ?_
        rw [later y first, later z second]
        omega

theorem distinct_nodup {α : Type} [BEq α] [LawfulBEq α] (xs : List α) : (distinct xs).Nodup :=
  (distinct_ordered xs).imp fun less same => by
    rw [same] at less
    exact Nat.lt_irrefl _ less

def apart (name candidate : String) : Nat :=
  leastEdits (Text.lower name.toList) (Text.lower candidate.toList)

def IsClose (name candidate : String) : Prop :=
  apart name candidate ≤ max 2 (name.toList.length / 3)

instance (name candidate : String) : Decidable (IsClose name candidate) :=
  inferInstanceAs (Decidable (_ ≤ _))

def ComesBefore (name : String) (candidates : List String) (first second : String) : Prop :=
  apart name first < apart name second ∨
    apart name first = apart name second ∧ candidates.idxOf first < candidates.idxOf second

theorem numbered_order {α : Type} (le : α → α → Bool) (a b : α × Nat) (ordered : List.zipIdxLE le a b = true) :
    le a.1 b.1 = true ∧ (le b.1 a.1 = true → a.2 ≤ b.2) := by
  unfold List.zipIdxLE at ordered
  by_cases least : le a.1 b.1 = true
  · refine ⟨least, fun alike => ?_⟩
    simpa [least, alike] using ordered
  · simp [least] at ordered

theorem stable_sorted {α : Type} (before : α → α → Prop) (le : α → α → Bool) (xs : List α)
    (trans : ∀ a b c : α, le a b = true → le b c = true → le a c = true) (total : ∀ a b : α, (le a b || le b a) = true)
    (ordered : xs.Pairwise before) : (xs.mergeSort le).Pairwise fun a b => le a b = true ∧ (le b a = true → before a b) := by
  rw [← List.mergeSort_zipIdx, List.pairwise_map]
  have sorted := List.pairwise_mergeSort (List.zipIdxLE_trans trans) (List.zipIdxLE_total total) xs.zipIdx
  have numbered : (xs.zipIdx.mergeSort (List.zipIdxLE le)).Pairwise fun a b => a.2 ≠ b.2 := by
    have numbers := ((List.mergeSort_perm xs.zipIdx (List.zipIdxLE le)).map Prod.snd).nodup_iff
    rw [List.zipIdx_map_snd] at numbers
    exact List.pairwise_map.mp (numbers.mpr List.nodup_range')
  refine (sorted.and numbered).imp_of_mem fun {a b} first second placed => ?_
  obtain ⟨here, found⟩ := List.getElem?_eq_some_iff.mp (List.mem_zipIdx_iff_getElem?.mp (List.mem_mergeSort.mp first))
  obtain ⟨there, also⟩ := List.getElem?_eq_some_iff.mp (List.mem_zipIdx_iff_getElem?.mp (List.mem_mergeSort.mp second))
  obtain ⟨least, tie⟩ := numbered_order le a b placed.1
  refine ⟨least, fun alike => ?_⟩
  rw [← found, ← also]
  exact List.pairwise_iff_getElem.mp ordered a.2 b.2 here there (Nat.lt_of_le_of_ne (tie alike) placed.2)

theorem close_distance (name candidate : String) :
    distance (some (closeness name)) (Text.lower name.toList) (Text.lower candidate.toList) ≤ closeness name ↔
      IsClose name candidate := by
  rw [distance_within_iff]
  exact Int.ofNat_le

theorem by_distance_eq (name : String) (pool : List String) : byDistance name pool =
    (((pool.filter (IsClose name ·)).map fun candidate => ((apart name candidate : Int), candidate)).mergeSort
      fun a b => decide (a.1 ≤ b.1)).map Prod.snd := by
  unfold byDistance
  simp only [close_distance]
  congr 2
  induction pool with
  | nil => rfl
  | cons candidate rest ih =>
      by_cases close : IsClose name candidate
      · have within : (apart name candidate : Int) ≤ closeness name := Int.ofNat_le.mpr close
        simp [close, ih, distance_within (closeness name) _ _ within, apart]
      · simp [close, ih]

theorem mem_by_distance (name : String) (pool : List String) (candidate : String) :
    candidate ∈ byDistance name pool ↔ candidate ∈ pool ∧ IsClose name candidate := by
  rw [by_distance_eq]
  simp

theorem by_distance_ordered (name : String) (candidates : List String) :
    (byDistance name (distinct candidates)).Pairwise (ComesBefore name candidates) := by
  let scored := ((distinct candidates).filter (IsClose name ·)).map fun candidate => ((apart name candidate : Int), candidate)
  have named : scored.Pairwise fun a b => candidates.idxOf a.2 < candidates.idxOf b.2 :=
    List.pairwise_map.mpr ((distinct_ordered candidates).filter _)
  have sorted := stable_sorted _ (fun a b => decide (a.1 ≤ b.1)) scored
    (fun a b c first second => by
      simp only [decide_eq_true_eq] at first second ⊢
      exact Int.le_trans first second)
    (fun a b => by simpa using Int.le_total a.1 b.1) named
  have score (entry : Int × String) (member : entry ∈ scored) : entry.1 = apart name entry.2 := by
    obtain ⟨candidate, _, rfl⟩ := List.mem_map.mp member
    rfl
  rw [by_distance_eq, List.pairwise_map]
  refine sorted.imp_of_mem fun {a b} first second placed => ?_
  have here := score a (List.mem_mergeSort.mp first)
  have there := score b (List.mem_mergeSort.mp second)
  simp only [decide_eq_true_eq, here, there, Int.ofNat_le] at placed
  rcases Nat.lt_or_eq_of_le placed.1 with fewer | same
  · exact .inl fewer
  · exact .inr ⟨same, placed.2 (Nat.le_of_eq same.symm)⟩

-- That one name stands inside the other or that both begin with the same three characters, in small letters. A name that is
-- inside the other has at least three characters: the wrong name in small letters, a candidate as it is written.
def IsRelated (name candidate : String) : Prop :=
  let small := Text.lower name.toList
  let other := Text.lower candidate.toList
  (3 ≤ small.length ∧ small <:+: other) ∨ (3 ≤ candidate.toList.length ∧ other <:+: small) ∨
    ∃ start, start.length = 3 ∧ start <+: small ∧ start <+: other

theorem related_iff (name candidate : String) :
    IsRelated name candidate ↔ isContained name candidate = true ∨ sharesBeginning name candidate = true := by
  have shared (small other : List Char) :
      (∃ start : List Char, start.length = 3 ∧ start <+: small ∧ start <+: other) ↔ 3 ≤ small.length ∧ small.take 3 <+: other := by
    constructor
    · rintro ⟨start, three, here, there⟩
      rw [← three, ← List.prefix_iff_eq_take.mp here]
      exact ⟨here.length_le, there⟩
    · rintro ⟨long, start⟩
      exact ⟨small.take 3, List.length_take_of_le long, List.take_prefix 3 small, start⟩
  simp only [IsRelated, shared, isContained, sharesBeginning, Bool.or_eq_true, Bool.and_eq_true, decide_eq_true_eq,
    Text.occurs_in_iff, List.isPrefixOf_iff_prefix, or_assoc]
  rfl

instance (name candidate : String) : Decidable (IsRelated name candidate) :=
  decidable_of_iff _ (related_iff name candidate).symm

theorem first_nonempty_cases (lists : List (List String)) : firstNonempty lists = [] ∨ firstNonempty lists ∈ lists := by
  induction lists with
  | nil => exact .inl rfl
  | cons xs rest ih =>
      cases xs with
      | nil => exact ih.imp id (List.mem_cons_of_mem [])
      | cons x xs => exact .inr List.mem_cons_self

theorem first_nonempty_found (lists : List (List String)) (xs : List String) (member : xs ∈ lists) (found : xs ≠ []) :
    firstNonempty lists ≠ [] := by
  induction lists with
  | nil => cases member
  | cons first rest ih =>
      cases first with
      | nil =>
          rcases List.mem_cons.mp member with same | later
          · exact absurd same found
          · exact ih later
      | cons x first => exact List.cons_ne_nil x first

def strategies (name : String) (useDistance : Bool) (pool : List String) : List (List String) :=
  [pool.filter (isContained name), pool.filter (sharesBeginning name), if useDistance then byDistance name pool else []]

theorem nearest_unnamed (candidates : List String) (useDistance : Bool) (limit : Nat) :
    nearest "" candidates [] useDistance limit = [] := by
  simp [nearest]

theorem nearest_eq (name : String) (candidates : List String) (useDistance : Bool) (limit : Nat) (named : name ≠ "") :
    nearest name candidates [] useDistance limit =
      (firstNonempty (strategies name useDistance (distinct candidates))).take limit := by
  have cut (xs : List String) : limited (limit : Int) xs = xs.take limit := by simp [limited]
  unfold nearest
  by_cases none : distinct candidates = []
  · cases useDistance <;> simp [strategies, none, firstNonempty, byDistance]
  · simp [named, none, cut, aliasTargets, firstNonempty, strategies]

theorem strategy_candidates (name : String) (candidates : List String) (useDistance : Bool) (names : List String)
    (member : names ∈ strategies name useDistance (distinct candidates)) : names.Nodup ∧ names ⊆ candidates := by
  have part (test : String → Bool) : ((distinct candidates).filter test).Nodup ∧ (distinct candidates).filter test ⊆ candidates :=
    ⟨(distinct_nodup candidates).filter test, fun c found => (mem_distinct candidates c).mp (List.mem_filter.mp found).1⟩
  have close : (byDistance name (distinct candidates)).Nodup ∧ byDistance name (distinct candidates) ⊆ candidates := by
    refine ⟨(by_distance_ordered name candidates).imp fun before same => ?_, fun c found => ?_⟩
    · subst same
      rcases before with less | ⟨_, less⟩ <;> exact Nat.lt_irrefl _ less
    · exact (mem_distinct candidates c).mp ((mem_by_distance name _ c).mp found).1
  simp only [strategies, List.mem_cons, List.not_mem_nil, or_false] at member
  rcases member with rfl | rfl | rfl
  · exact part _
  · exact part _
  · cases useDistance
    · exact ⟨List.nodup_nil, List.nil_subset _⟩
    · exact close

theorem nearest_candidates (name : String) (candidates : List String) (useDistance : Bool) (limit : Nat) :
    (nearest name candidates [] useDistance limit).Nodup ∧ (nearest name candidates [] useDistance limit).length ≤ limit ∧
      nearest name candidates [] useDistance limit ⊆ candidates := by
  by_cases named : name = ""
  · subst named
    simp [nearest_unnamed]
  · rw [nearest_eq name candidates useDistance limit named]
    refine (first_nonempty_cases (strategies name useDistance (distinct candidates))).elim (fun none => by simp [none]) fun found => ?_
    obtain ⟨apart, listed⟩ := strategy_candidates name candidates useDistance _ found
    exact ⟨apart.sublist (List.take_sublist _ _), List.length_take_le _ _, fun c member => listed (List.mem_of_mem_take member)⟩

theorem nearest_close (name : String) (candidates : List String) (limit : Nat) (room : 1 ≤ limit) (named : name ≠ "")
    (candidate : String) (member : candidate ∈ candidates) (close : IsClose name candidate) :
    nearest name candidates [] true limit ≠ [] := by
  have listed : candidate ∈ byDistance name (distinct candidates) :=
    (mem_by_distance name _ candidate).mpr ⟨(mem_distinct candidates candidate).mpr member, close⟩
  have found : firstNonempty (strategies name true (distinct candidates)) ≠ [] :=
    first_nonempty_found _ (byDistance name (distinct candidates)) (by simp [strategies]) (List.ne_nil_of_mem listed)
  rw [nearest_eq name candidates true limit named]
  intro none
  rcases List.take_eq_nil_iff.mp none with no_room | nothing
  · omega
  · exact found nothing

theorem nearest_unrelated (name : String) (candidates : List String) (limit : Nat) (named : name ≠ "")
    (unrelated : ∀ candidate ∈ candidates, ¬ IsRelated name candidate) :
    nearest name candidates [] true limit = (byDistance name (distinct candidates)).take limit := by
  have none (test : String → Bool) (related : ∀ candidate, test candidate = true → IsRelated name candidate) :
      (distinct candidates).filter test = [] :=
    List.filter_eq_nil_iff.mpr fun c member shown => unrelated c ((mem_distinct candidates c).mp member) (related c shown)
  rw [nearest_eq name candidates true limit named, strategies,
    none _ fun c contained => (related_iff name c).mpr (.inl contained),
    none _ fun c shared => (related_iff name c).mpr (.inr shared)]
  cases byDistance name (distinct candidates) <;> rfl

theorem nearest_sound (name : String) (candidates : List String) (limit : Nat) :
    (∀ useDistance : Bool, (nearest name candidates [] useDistance limit).Nodup ∧
      (nearest name candidates [] useDistance limit).length ≤ limit ∧
      nearest name candidates [] useDistance limit ⊆ candidates) ∧
    (1 ≤ limit → name ≠ "" →
      ((∃ candidate ∈ candidates, IsClose name candidate) → nearest name candidates [] true limit ≠ []) ∧
      ((∀ candidate ∈ candidates, ¬ IsRelated name candidate) → ∃ ordered : List String,
        nearest name candidates [] true limit = ordered.take limit ∧
        (∀ candidate, candidate ∈ ordered ↔ candidate ∈ candidates ∧ IsClose name candidate) ∧
        ordered.Pairwise (ComesBefore name candidates))) := by
  refine ⟨fun useDistance => nearest_candidates name candidates useDistance limit, fun room named => ⟨?_, fun unrelated => ?_⟩⟩
  · rintro ⟨candidate, member, close⟩
    exact nearest_close name candidates limit room named candidate member close
  · refine ⟨byDistance name (distinct candidates), nearest_unrelated name candidates limit named unrelated, fun c => ?_,
      by_distance_ordered name candidates⟩
    rw [mem_by_distance, mem_distinct]

theorem nearest_sound_tie :
    let candidates := ["topic", "optics", "addresses", "topics", "optics"]
    "tpoics" ≠ "" ∧ IsClose "tpoics" "topics" ∧ (∀ candidate ∈ candidates, ¬ IsRelated "tpoics" candidate) ∧
      nearest "tpoics" candidates [] true 1 ≠ [] ∧ ∃ ordered : List String,
        nearest "tpoics" candidates [] true 1 = ordered.take 1 ∧
        (∀ candidate, candidate ∈ ordered ↔ candidate ∈ candidates ∧ IsClose "tpoics" candidate) ∧
        ordered.Pairwise (ComesBefore "tpoics" candidates) := by
  intro candidates
  have close : IsClose "tpoics" "topics" := by decide +kernel
  have unrelated : ∀ candidate ∈ candidates, ¬ IsRelated "tpoics" candidate := by decide +kernel
  have found := (nearest_sound "tpoics" candidates 1).2 (by decide) (by decide)
  exact ⟨by decide, close, unrelated, found.1 ⟨"topics", by decide, close⟩, found.2 unrelated⟩

end Name

end PipelineLint
