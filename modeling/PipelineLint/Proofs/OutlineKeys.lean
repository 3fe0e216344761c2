import PipelineLint.Proofs.KeyRenames

set_option autoImplicit false

namespace PipelineLint.Repair

-- The outline needs no renaming: the list of processors has its name, or no other key stands for it.
def OutlineSettled (keys : List KeySite) : Prop :=
  (∃ site ∈ keys, site.above = [.key "pipeline"] ∧ site.key = Catalog.processorsKey) ∨
    ∀ site ∈ keys, site.above = [.key "pipeline"] → site.key ∉ Catalog.processorsSynonyms

theorem fix_outline_cases (lines : Lines) :
    (fixOutline lines = (lines, []) ∧ OutlineSettled (sites lines).keys) ∨
      ∃ site ∈ (sites lines).keys, site.above = [.key "pipeline"] ∧ (fixOutline lines).2 ≠ [] ∧
        (fixOutline lines).1 = renameKey lines site Catalog.processorsKey ∧ ¬ OutlineSettled (sites lines).keys := by
  unfold fixOutline Sites.pipelineKeys
  simp only
  split
  · rename_i named
    obtain ⟨site, member, same⟩ := List.any_eq_true.mp named
    obtain ⟨inside, above⟩ := List.mem_filter.mp member
    exact .inl ⟨rfl, .inl ⟨site, inside, of_decide_eq_true above, by simpa using same⟩⟩
  · rename_i unnamed
    split
    · rename_i absent
      refine .inl ⟨rfl, .inr fun site inside above synonym => ?_⟩
      have missing := List.find?_eq_none.mp absent site (List.mem_filter.mpr ⟨inside, decide_eq_true above⟩)
      exact missing (by simpa using synonym)
    · rename_i site found
      obtain ⟨inside, above⟩ := List.mem_filter.mp (List.mem_of_find?_eq_some found)
      refine .inr ⟨site, inside, of_decide_eq_true above, by simp, rfl, ?_⟩
      rintro (⟨other, member, place, named⟩ | none_stands)
      · exact unnamed (List.any_eq_true.mpr ⟨other, List.mem_filter.mpr ⟨member, decide_eq_true place⟩, by simp [named]⟩)
      · have synonym := List.find?_some found
        exact none_stands site inside (of_decide_eq_true above) (by simpa using synonym)

theorem fix_outline_fixes (lines : Lines) : (fixOutline lines).2 = [] ↔ OutlineSettled (sites lines).keys := by
  rcases fix_outline_cases lines with ⟨idle, settled⟩ | ⟨site, -, -, fixes, -, open_⟩
  · rw [idle]
    exact ⟨fun _ => settled, fun _ => rfl⟩
  · exact ⟨fun none_made => absurd none_made fixes, fun settled => absurd settled open_⟩

theorem fix_outline_idle (lines : Lines) (settled : OutlineSettled (sites lines).keys) : fixOutline lines = (lines, []) := by
  rcases fix_outline_cases lines with ⟨idle, -⟩ | ⟨site, -, -, -, -, open_⟩
  · exact idle
  · exact absurd settled open_

inductive Renewed (key other : String) : List (Nat × Level) → List (Nat × Level) → Prop
  | same (levels : List (Nat × Level)) : Renewed key other levels levels
  | here (column : Nat) (outer : List (Nat × Level)) (below : outer.map Prod.snd = [.key "pipeline"]) :
      Renewed key other ((column, .key key) :: outer) ((column, .key other) :: outer)
  | inside (level : Nat × Level) (levels renewed : List (Nat × Level)) (outer : Renewed key other levels renewed) :
      Renewed key other (level :: levels) (level :: renewed)

variable {key other : String}

theorem renewed_run {levels renewed : List (Nat × Level)} (relation : Renewed key other levels renewed)
    (passes : Nat × Level → Bool) (blind : ∀ column name also, passes (column, .key name) = passes (column, .key also)) :
    Renewed key other (levels.dropWhile passes) (renewed.dropWhile passes) := by
  induction relation with
  | same levels => exact .same _
  | here column outer below =>
      rw [List.dropWhile_cons, List.dropWhile_cons, blind column other key]
      split
      · exact .same _
      · exact .here column outer below
  | inside level levels renewed outer ih =>
      rw [List.dropWhile_cons, List.dropWhile_cons]
      split
      · exact ih
      · exact .inside level levels renewed outer

theorem renewed_above_entry {levels renewed : List (Nat × Level)} (relation : Renewed key other levels renewed) (column : Nat) :
    Renewed key other (aboveEntry column levels) (aboveEntry column renewed) :=
  renewed_run relation _ fun _ _ _ => rfl

theorem renewed_levels_below {levels renewed : List (Nat × Level)} (relation : Renewed key other levels renewed)
    (dash : Option Nat) : Renewed key other (levelsBelow dash levels) (levelsBelow dash renewed) := by
  cases dash with
  | none => exact relation
  | some indent => exact .inside _ _ _ (renewed_run relation _ fun _ _ _ => by simp)

theorem renewed_cases {levels renewed : List (Nat × Level)} (relation : Renewed key other levels renewed) :
    levels = renewed ∨ 2 ≤ levels.length ∧ 2 ≤ renewed.length := by
  induction relation with
  | same levels => exact .inl rfl
  | here column outer below =>
      have one := congrArg List.length below
      rw [List.length_map, List.length_singleton] at one
      simp [one]
  | inside level levels renewed outer ih =>
      rcases ih with rfl | ⟨first, second⟩
      · exact .inl rfl
      · simp only [List.length_cons]
        omega

structure RenewedPlace (key other : String) (place renewed : Place) : Prop where
  levels : Renewed key other place.levels renewed.levels
  block : renewed.block.map OpenBlock.column = place.block.map OpenBlock.column

theorem entry_site_renewed {levels renewed : List (Nat × Level)} (relation : Renewed key other levels renewed)
    (index column : Nat) (name : String) :
    (Sites.mk [entrySite renewed index column name] []).pipelineKeys =
      (Sites.mk [entrySite levels index column name] []).pipelineKeys := by
  unfold Sites.pipelineKeys entrySite
  rcases renewed_cases (renewed_above_entry relation column) with same | ⟨first, second⟩
  · rw [same]
  · have deep (levels : List (Nat × Level)) (long : 2 ≤ levels.length) : levels.map Prod.snd ≠ [.key "pipeline"] := by
      intro one
      have length := congrArg List.length one
      rw [List.length_map, List.length_singleton] at length
      omega
    simp [deep _ first, deep _ second]

theorem visit_renewed {place renewed : Place} (relation : RenewedPlace key other place renewed) (index : Nat)
    (line : List Char) : RenewedPlace key other (visit place index line).1 (visit renewed index line).1 ∧
      (visit renewed index line).2.pipelineKeys = (visit place index line).2.pipelineKeys := by
  obtain ⟨place_here, keys_here⟩ := visit_shape place index line
  obtain ⟨place_next, keys_next⟩ := visit_shape renewed index line
  rw [relation.block] at place_next keys_next
  unfold Sites.pipelineKeys
  rw [place_here, place_next, keys_here, keys_next]
  cases shapeOf (place.block.map OpenBlock.column) line with
  | stay => exact ⟨relation, rfl⟩
  | reset => exact ⟨⟨.same [], rfl⟩, rfl⟩
  | plain dash => exact ⟨⟨renewed_levels_below relation.levels dash, rfl⟩, rfl⟩
  | entry dash column name opens =>
      have below := renewed_levels_below relation.levels dash
      refine ⟨⟨.inside _ _ _ (renewed_above_entry below column), ?_⟩, entry_site_renewed below index column name⟩
      cases opens <;> rfl

theorem sites_renewed {place renewed : Place} (relation : RenewedPlace key other place renewed) (index : Nat) (lines : Lines) :
    (sitesFrom renewed index lines).pipelineKeys = (sitesFrom place index lines).pipelineKeys := by
  induction lines generalizing place renewed index with
  | nil => rfl
  | cons line rest ih =>
      obtain ⟨next, here⟩ := visit_renewed relation index line
      have later := ih next (index + 1)
      unfold Sites.pipelineKeys at here later ⊢
      simp only [sitesFrom, Sites.append, List.filter_append, here, later]

theorem key_renamed_through (place : Place) (index : Nat) (lines : Lines) (front back : List KeySite) (site : KeySite)
    (other : String) (name : isKeyName other.toList = true)
    (found : (sitesFrom place index lines).keys = front ++ site :: back) :
    index ≤ site.line ∧
      ∃ later, (sitesFrom place index (lines.modify (site.line - index) (replaceRange site.column site.stop other))).keys =
        front ++ { site with key := other } :: later ∧
        (site.above = [.key "pipeline"] → (Sites.mk later []).pipelineKeys = (Sites.mk back []).pipelineKeys) := by
  induction lines generalizing place index front with
  | nil => simp [sitesFrom] at found
  | cons line rest ih =>
      simp only [sitesFrom, Sites.append] at found
      rcases append_split _ _ front back site found with ⟨others, rfl, later⟩ | ⟨others, here, rfl⟩
      · obtain ⟨beyond, last, same, kept⟩ := ih (visit place index line).1 (index + 1) others later
        have next : site.line - index = site.line - (index + 1) + 1 := by omega
        refine ⟨by omega, last, ?_, kept⟩
        rw [next, List.modify_succ_cons]
        simp only [sitesFrom, Sites.append, same, List.append_assoc]
      · obtain ⟨place_here, keys_here⟩ := visit_shape place index line
        rw [keys_here] at here
        cases shape : shapeOf (place.block.map OpenBlock.column) line with
        | entry dash column key opens =>
            obtain ⟨before, tail, rfl, place_column, -, renamed⟩ := shape_renamed _ line dash column key opens shape
            rw [shape] at here place_here
            cases front with
            | cons first front => simp [Shape.keys] at here
            | nil =>
                obtain ⟨rfl, rfl⟩ := List.cons.inj here
                subst place_column
                have line_renamed := replace_range_name before key.toList tail other
                rw [String.length_toList] at line_renamed
                obtain ⟨place_next, keys⟩ := visit_shape place index (before ++ (other.toList ++ tail))
                rw [renamed other name] at place_next keys
                refine ⟨Nat.le_refl _,
                  (sitesFrom (visit place index (before ++ (other.toList ++ tail))).1 (index + 1) rest).keys, ?_, fun above => ?_⟩
                · show (sitesFrom place index (((before ++ (key.toList ++ tail)) :: rest).modify (index - index)
                    (replaceRange before.length (before.length + key.length) other))).keys = _
                  rw [Nat.sub_self, List.modify_zero_cons, line_renamed]
                  simp only [sitesFrom, Sites.append, keys]
                  rfl
                · have relation : RenewedPlace key other (visit place index (before ++ (key.toList ++ tail))).1
                      (visit place index (before ++ (other.toList ++ tail))).1 := by
                    rw [place_here, place_next]
                    refine ⟨.here _ _ above, ?_⟩
                    cases opens <;> rfl
                  exact sites_renewed relation (index + 1) rest
        | _ =>
            rw [shape] at here
            simp [Shape.keys] at here

theorem fix_outline_settled (lines : Lines) : OutlineSettled (sites (fixOutline lines).1).keys := by
  rcases fix_outline_cases lines with ⟨idle, settled⟩ | ⟨site, member, above, -, renamed, -⟩
  · rw [idle]
    exact settled
  · obtain ⟨front, back, split⟩ := List.append_of_mem member
    obtain ⟨-, later, same, -⟩ := key_renamed_through {} 0 lines front back site Catalog.processorsKey (by decide) split
    rw [renamed]
    left
    refine ⟨{ site with key := Catalog.processorsKey }, ?_, above, rfl⟩
    show _ ∈ (sitesFrom {} 0 (lines.modify (site.line - 0) _)).keys
    rw [same]
    simp

theorem top_level_kept (name : String) : advancedName name [] = name := by
  simp [advancedName, keyReplacement?, componentCategory?]

theorem outline_key_kept (key : String) : advancedName key [.key "pipeline"] = key := by
  have no_section : componentCategory? [.key "pipeline"] = none := by decide
  simp [advancedName, keyReplacement?, no_section]

theorem pipeline_advanced (site : KeySite) (below : site.advanced.above = [.key "pipeline"]) :
    site.above = [.key "pipeline"] ∧ site.advanced.key = site.key := by
  have outer : advance site.above = [.key "pipeline"] := below
  have above : site.above = [.key "pipeline"] := by
    cases levels : site.above with
    | nil =>
        rw [levels] at outer
        cases outer
    | cons level rest =>
        rw [levels] at outer
        cases level with
        | item => simp [advance] at outer
        | key name =>
            simp only [advance, List.cons.injEq] at outer
            cases rest with
            | cons level rest =>
                cases level <;> simp [advance] at outer
            | nil =>
                rw [top_level_kept] at outer
                rw [outer.1]
  refine ⟨above, ?_⟩
  show advancedName site.key site.above = site.key
  rw [above, outline_key_kept]

theorem outline_settled_advanced (keys : List KeySite) (settled : OutlineSettled keys) :
    OutlineSettled (keys.map KeySite.advanced) := by
  rcases settled with ⟨site, member, above, named⟩ | absent
  · left
    refine ⟨site.advanced, List.mem_map_of_mem member, ?_, ?_⟩
    · show advance site.above = _
      rw [above]
      simp only [advance, top_level_kept]
    · show advancedName site.key site.above = _
      rw [above, outline_key_kept, named]
  · right
    intro renamed member above
    obtain ⟨site, inside, rfl⟩ := List.mem_map.mp member
    obtain ⟨below, same⟩ := pipeline_advanced site above
    rw [same]
    exact absent site inside below

end PipelineLint.Repair
