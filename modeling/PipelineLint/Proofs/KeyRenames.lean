import PipelineLint.Proofs.Replacements
import PipelineLint.Proofs.Shapes

set_option autoImplicit false

namespace PipelineLint.Repair

def keyReplacement? (key : String) (above : List Level) : Option String :=
  if Catalog.isMetadata key then none else (componentCategory? above).bind (Catalog.componentReplacement? key)

def advancedName (key : String) (above : List Level) : String :=
  (keyReplacement? key above).getD key

-- The levels above a place with every key renamed by the levels above itself.
def advance : List Level → List Level
  | [] => []
  | .item :: outer => .item :: advance outer
  | .key name :: outer => .key (advancedName name outer) :: advance outer

def advanceLevels : List (Nat × Level) → List (Nat × Level)
  | [] => []
  | (column, .item) :: outer => (column, .item) :: advanceLevels outer
  | (column, .key name) :: outer => (column, .key (advancedName name (outer.map Prod.snd))) :: advanceLevels outer

def KeySite.advanced (site : KeySite) : KeySite :=
  { site with key := advancedName site.key site.above, above := advance site.above }

theorem advance_levels_names (levels : List (Nat × Level)) :
    (advanceLevels levels).map Prod.snd = advance (levels.map Prod.snd) := by
  induction levels with
  | nil => rfl
  | cons level outer ih =>
      obtain ⟨column, level⟩ := level
      cases level with
      | item => exact congrArg (Level.item :: ·) ih
      | key name => exact congrArg (_ :: ·) ih

theorem advance_levels_run (passes : Nat × Level → Bool) (levels : List (Nat × Level))
    (blind : ∀ column name other, passes (column, .key name) = passes (column, .key other)) :
    (advanceLevels levels).dropWhile passes = advanceLevels (levels.dropWhile passes) := by
  induction levels with
  | nil => rfl
  | cons level outer ih =>
      obtain ⟨column, level⟩ := level
      cases level with
      | item =>
          simp only [advanceLevels, List.dropWhile_cons]
          split
          · exact ih
          · rfl
      | key name =>
          simp only [advanceLevels, List.dropWhile_cons]
          rw [blind column _ name]
          split
          · exact ih
          · rfl

theorem above_entry_advance (column : Nat) (levels : List (Nat × Level)) :
    aboveEntry column (advanceLevels levels) = advanceLevels (aboveEntry column levels) :=
  advance_levels_run _ levels fun _ _ _ => rfl

theorem levels_below_advance (dash : Option Nat) (levels : List (Nat × Level)) :
    levelsBelow dash (advanceLevels levels) = advanceLevels (levelsBelow dash levels) := by
  cases dash with
  | none => rfl
  | some indent =>
      have outer : aboveItem indent (advanceLevels levels) = advanceLevels (aboveItem indent levels) :=
        advance_levels_run _ levels fun _ _ _ => by simp
      simp only [levelsBelow, advanceLevels, outer]

structure Ahead (place renamed : Place) : Prop where
  levels : renamed.levels = advanceLevels place.levels
  block : renamed.block.map OpenBlock.column = place.block.map OpenBlock.column

def replacedKeys (keys : List KeySite) : List (KeySite × String) :=
  keys.filterMap fun site => (keyReplacement? site.key site.above).map (site, ·)

def renameKeysOf (line : List Char) (found : List (KeySite × String)) : List Char :=
  found.foldl (fun line (site, name) => replaceRange site.column site.stop name line) line

def advanceLines : (place : Place) → (index : Nat) → Lines → Lines
  | _, _, [] => []
  | place, index, line :: rest =>
      renameKeysOf line (replacedKeys (visit place index line).2.keys) ::
        advanceLines (visit place index line).1 (index + 1) rest

theorem replacement_key_name (key target : String) (above : List Level) (found : keyReplacement? key above = some target) :
    isKeyName target.toList = true := by
  unfold keyReplacement? at found
  split at found
  · cases found
  · obtain ⟨category, -, replaced⟩ := Option.bind_eq_some_iff.mp found
    exact identifier_key_name _
      (Catalog.known_identifier target category (Catalog.component_replacement_known key target category replaced))

theorem advanced_key_name (key : String) (above : List Level) (name : isKeyName key.toList = true) :
    isKeyName (advancedName key above).toList = true := by
  unfold advancedName
  cases found : keyReplacement? key above with
  | none => exact name
  | some target => exact replacement_key_name key target above found

theorem rename_keys_one (before tail : List Char) (site : KeySite) (column : site.column = before.length) :
    renameKeysOf (before ++ (site.key.toList ++ tail)) (replacedKeys [site]) =
      before ++ ((advancedName site.key site.above).toList ++ tail) := by
  unfold replacedKeys advancedName
  cases found : keyReplacement? site.key site.above with
  | none => simp [found, renameKeysOf]
  | some target =>
      have replaced := replace_range_name before site.key.toList tail target
      rw [← column, String.length_toList] at replaced
      simpa [found, renameKeysOf, KeySite.stop] using replaced

theorem visit_ahead (place renamed : Place) (index : Nat) (line : List Char) (ahead : Ahead place renamed) :
    let next := renameKeysOf line (replacedKeys (visit place index line).2.keys)
    Ahead (visit place index line).1 (visit renamed index next).1 ∧
      (visit renamed index next).2.keys = (visit place index line).2.keys.map KeySite.advanced := by
  intro next
  obtain ⟨place_here, keys_here⟩ := visit_shape place index line
  obtain ⟨place_next, keys_next⟩ := visit_shape renamed index next
  rw [ahead.block] at place_next keys_next
  have unchanged (no_keys : (visit place index line).2.keys = []) : next = line := by
    simp only [next, no_keys]
    rfl
  rw [place_here, place_next, keys_here, keys_next]
  cases shape : shapeOf (place.block.map OpenBlock.column) line with
  | stay =>
      rw [shape] at keys_here
      rw [unchanged keys_here, shape]
      exact ⟨ahead, rfl⟩
  | reset =>
      rw [shape] at keys_here
      rw [unchanged keys_here, shape]
      exact ⟨⟨rfl, rfl⟩, rfl⟩
  | plain dash =>
      rw [shape] at keys_here
      rw [unchanged keys_here, shape]
      refine ⟨⟨?_, rfl⟩, rfl⟩
      simp only [Shape.place, ahead.levels, levels_below_advance]
  | entry dash column key opens =>
      rw [shape] at keys_here
      obtain ⟨before, tail, split, place_column, name, same⟩ :=
        shape_renamed (place.block.map OpenBlock.column) line dash column key opens shape
      have next_line := rename_keys_one before tail (entrySite (levelsBelow dash place.levels) index column key)
        place_column.symm
      have renamed_line : next = before ++
          ((advancedName key ((aboveEntry column (levelsBelow dash place.levels)).map Prod.snd)).toList ++ tail) := by
        refine Eq.trans ?_ next_line
        simp only [next]
        rw [keys_here, split]
        rfl
      rw [renamed_line, same _ (advanced_key_name key _ name)]
      refine ⟨⟨?_, ?_⟩, ?_⟩
      · simp only [Shape.place, entryPlace, ahead.levels, levels_below_advance, above_entry_advance]
        rfl
      · cases opens <;> rfl
      · simp only [Shape.keys, entrySite, ahead.levels, levels_below_advance, above_entry_advance, advance_levels_names]
        rfl

theorem sites_ahead (place renamed : Place) (index : Nat) (lines : Lines) (ahead : Ahead place renamed) :
    (sitesFrom renamed index (advanceLines place index lines)).keys =
      (sitesFrom place index lines).keys.map KeySite.advanced := by
  induction lines generalizing place renamed index with
  | nil => rfl
  | cons line rest ih =>
      obtain ⟨next, keys⟩ := visit_ahead place renamed index line ahead
      have later := ih (visit place index line).1 _ (index + 1) next
      simp only [advanceLines, sitesFrom, Sites.append, List.map_append]
      rw [keys, later]

theorem misnamed_components (lines : Lines) : misnamedComponents lines = replacedKeys (sites lines).keys := by
  unfold misnamedComponents Sites.components replacedKeys keyReplacement? Catalog.componentReplacement?
  rw [List.filterMap_filterMap, List.filterMap_filter]
  refine congrArg (fun f => List.filterMap f _) (funext fun site => ?_)
  cases Catalog.isMetadata site.key with
  | true => rfl
  | false => cases componentCategory? site.above <;> rfl

theorem visit_keys_line (place : Place) (index : Nat) (line : List Char) :
    ∀ site ∈ (visit place index line).2.keys, site.line = index := by
  intro site member
  rw [(visit_shape place index line).2] at member
  unfold Shape.keys at member
  split at member
  · rw [List.mem_singleton.mp member]
    rfl
  · cases member

theorem modify_behind (done rest : Lines) (line : List Char) (change : List Char → List Char) :
    (done ++ line :: rest).modify done.length change = done ++ change line :: rest := by
  induction done with
  | nil => rfl
  | cons first done ih =>
      rw [List.cons_append, List.length_cons, List.modify_succ_cons, ih]
      rfl

theorem rename_keys_here (done rest : Lines) (line : List Char) (found : List (KeySite × String))
    (here : ∀ entry ∈ found, entry.1.line = done.length) :
    found.foldl (fun lines (site, name) => renameKey lines site name) (done ++ line :: rest) =
      done ++ renameKeysOf line found :: rest := by
  induction found generalizing line with
  | nil => rfl
  | cons entry found ih =>
      obtain ⟨site, name⟩ := entry
      have place : site.line = done.length := here (site, name) List.mem_cons_self
      have step : renameKey (done ++ line :: rest) site name =
          done ++ replaceRange site.column site.stop name line :: rest := by
        unfold renameKey
        rw [place]
        exact modify_behind done rest line _
      rw [List.foldl_cons]
      simp only
      rw [step]
      exact ih _ fun entry member => here entry (List.mem_cons_of_mem _ member)

theorem rename_keys_from (place : Place) (done lines : Lines) :
    (replacedKeys (sitesFrom place done.length lines).keys).foldl (fun lines (site, name) => renameKey lines site name)
      (done ++ lines) = done ++ advanceLines place done.length lines := by
  induction lines generalizing place done with
  | nil => rfl
  | cons line rest ih =>
      have later := ih (visit place done.length line).1
        (done ++ [renameKeysOf line (replacedKeys (visit place done.length line).2.keys)])
      rw [List.length_append, List.length_singleton, List.append_assoc, List.append_assoc, List.singleton_append,
        List.singleton_append] at later
      have here : ∀ entry ∈ replacedKeys (visit place done.length line).2.keys, entry.1.line = done.length := by
        intro entry member
        obtain ⟨site, inside, found⟩ := List.mem_filterMap.mp member
        obtain ⟨target, -, rfl⟩ := Option.map_eq_some_iff.mp found
        exact visit_keys_line place done.length line site inside
      simp only [sitesFrom, Sites.append, advanceLines]
      rw [replacedKeys, List.filterMap_append, List.foldl_append]
      have first := rename_keys_here done rest line _ here
      unfold replacedKeys at first later ⊢
      rw [first]
      exact later

theorem fix_components_lines (lines : Lines) : (fixComponents lines).1 = advanceLines {} 0 lines := by
  unfold fixComponents
  simp only
  rw [misnamed_components]
  exact rename_keys_from {} [] lines

theorem fix_components_effect (lines : Lines) :
    (sites (fixComponents lines).1).keys = (sites lines).keys.map KeySite.advanced := by
  rw [fix_components_lines]
  exact sites_ahead {} {} 0 lines ⟨rfl, rfl⟩

def KeysSettled (lines : Lines) : Prop :=
  ∀ site ∈ (sites lines).keys, keyReplacement? site.key site.above = none

theorem fix_components_fixes (lines : Lines) : (fixComponents lines).2 = [] ↔ KeysSettled lines := by
  have found : (fixComponents lines).2 = [] ↔ misnamedComponents lines = [] := List.map_eq_nil_iff
  rw [found, misnamed_components, replacedKeys, List.filterMap_eq_nil_iff]
  simp only [Option.map_eq_none_iff, KeysSettled]

theorem fix_components_idle (lines : Lines) (settled : KeysSettled lines) : fixComponents lines = (lines, []) := by
  have none_found : misnamedComponents lines = [] :=
    List.map_eq_nil_iff.mp ((fix_components_fixes lines).mpr settled)
  unfold fixComponents
  simp only
  rw [none_found]
  rfl

end PipelineLint.Repair
