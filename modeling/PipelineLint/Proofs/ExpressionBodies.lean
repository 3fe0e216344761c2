import Mathlib.Data.List.Basic
import PipelineLint.Proofs.Convergence
import PipelineLint.Proofs.ExpressionRenames

set_option autoImplicit false

namespace PipelineLint.Repair

open Expression

def IsBody (column : Nat) (line : List Char) : Prop :=
  Text.allBlank line = true ∨ column < indentOf line

theorem calls_of_blank (kind : CallKind) (line : List Char) (blank : Text.allBlank line = true) : callsOf kind line = [] := by
  have none_called := calls_behind_blanks kind line [] (List.all_eq_true.mp blank)
  rw [List.append_nil] at none_called
  rw [none_called]
  cases kind <;> rfl

theorem line_parts (line : List Char) (ink : Text.allBlank line = false) :
    ∃ spaces content blanks, line = spaces ++ (content ++ blanks) ∧ spaces.length = indentOf line ∧
      inkEnd line = spaces.length + content.length ∧ (∀ c ∈ spaces, Text.isBlank c = true) ∧
      ∀ c ∈ blanks, Text.isBlank c = true := by
  have space : ∀ c ∈ line.takeWhile (· = ' '), Text.isBlank c = true := fun c member => by
    have space : c = ' ' := by simpa using List.mem_takeWhile_imp member
    rw [space]
    rfl
  have whole : line = line.takeWhile (· = ' ') ++ line.dropWhile (· = ' ') := List.takeWhile_append_dropWhile.symm
  obtain ⟨blanks, split, blank⟩ := Text.dropTrailing_append_dropped Text.isBlank (line.dropWhile (· = ' '))
  refine ⟨line.takeWhile (· = ' '), Text.trimRight (line.dropWhile (· = ' ')), blanks, ?_, rfl, ?_, space,
    List.all_eq_true.mp blank⟩
  · exact whole.trans (congrArg _ split)
  · have solid : Text.trimRight (line.dropWhile (· = ' ')) ≠ [] := fun nothing => by
      have later := (Text.dropTrailing_eq_nil_iff _ _).mp nothing
      rw [Text.allBlank, whole, List.all_append, List.all_eq_true.mpr space, later] at ink
      cases ink
    have reach := ink_end_append (line.takeWhile (· = ' ')) _ solid
    rw [← whole] at reach
    exact reach

theorem visit_body (place : Place) (column index : Nat) (line : List Char) (block : place.block = some ⟨column, true⟩)
    (body : IsBody column line) :
    (visit place index line).1 = place ∧ (visit place index line).2.keys = [] ∧
      ∀ kind, callsIn kind (visit place index line).2.stretches line = (callsOf kind line).map (placed index 0) := by
  unfold visit
  rw [block]
  cases ink : Text.allBlank line with
  | true => exact ⟨rfl, rfl, fun kind => by rw [calls_of_blank kind line ink]; rfl⟩
  | false =>
      have deep : column < indentOf line := body.resolve_left (by rw [ink]; exact Bool.false_ne_true)
      simp only [Bool.false_eq_true, if_false, deep, if_true, bodyStretches]
      refine ⟨trivial, trivial, fun kind => ?_⟩
      obtain ⟨spaces, content, blanks, split, indent, reach, space, blank⟩ := line_parts line ink
      have text := range_text index (indentOf line) (inkEnd line) spaces content blanks indent.symm reach
      rw [← split] at text
      have calls : callsOf kind line = (callsOf kind content).map (CallSite.moved spaces.length) := by
        rw [split, calls_behind_blanks kind spaces _ space, calls_before_blanks kind content blanks blank]
      rw [calls_in_one, text, calls, List.map_map, indent]
      refine List.map_congr_left fun site _ => ?_
      simp [placed, CallSite.moved, CallSite.stop, Nat.add_assoc]

theorem call_kind (kind : CallKind) (text : List Char) : ∀ site ∈ callsOf kind text, site.kind = kind := by
  intro site member
  rw [← calls_of_kind] at member
  exact of_decide_eq_true (List.mem_filter.mp member).2

def placedEntry (index : Nat) (entry : CallSite × String) : CallPlace × String :=
  (placed index 0 entry.1, entry.2)

theorem replaced_placed (kind : CallKind) (index : Nat) (text : List Char) :
    replacedCalls kind ((callsOf kind text).map (placed index 0)) =
      (misnamedSites (callsOf kind text)).map (placedEntry index) := by
  have kinds := call_kind kind text
  unfold replacedCalls misnamedSites
  rw [List.filterMap_map, List.map_filterMap]
  refine List.filterMap_congr fun site member => ?_
  rw [kinds site member]
  simp only [Function.comp_apply, Option.map_map]
  rfl

theorem rename_here (done rest : Lines) (line : List Char) (found : List (CallSite × String)) :
    renameCalls (found.map (placedEntry done.length)) (done ++ line :: rest) = done ++ renameSites found line :: rest := by
  induction found with
  | nil => rfl
  | cons entry found ih =>
      obtain ⟨site, name⟩ := entry
      have changed := modify_behind done rest (renameSites found line) (replaceRange site.start site.stop name)
      show renameCall (placed done.length 0 site) name (renameCalls _ (done ++ line :: rest)) = _
      rw [ih]
      simp only [renameCall, placed, Nat.zero_add]
      exact changed

theorem rename_body (place : Place) (column : Nat) (kind : CallKind) (done lines : Lines)
    (block : place.block = some ⟨column, true⟩) (body : ∀ line ∈ lines, IsBody column line) :
    renameCalls (replacedCalls kind (callsThrough kind place done.length lines)) (done ++ lines) =
      done ++ lines.map (renamedIn kind) := by
  induction lines generalizing done with
  | nil => rfl
  | cons line rest ih =>
      obtain ⟨here, others⟩ := List.forall_mem_cons.mp body
      obtain ⟨next, -, calls⟩ := visit_body place column done.length line block here
      have later := ih (done ++ [line]) others
      rw [List.length_append, List.length_singleton, List.append_assoc, List.append_assoc, List.singleton_append,
        List.singleton_append] at later
      rw [callsThrough, next, calls, replacedCalls, List.filterMap_append, renameCalls, List.foldr_append]
      change renameCalls (replacedCalls kind _) (renameCalls (replacedCalls kind _) _) = _
      rw [later, replaced_placed]
      exact rename_here done _ line _

theorem body_keys (place : Place) (column index : Nat) (lines : Lines) (block : place.block = some ⟨column, true⟩)
    (body : ∀ line ∈ lines, IsBody column line) : (sitesFrom place index lines).keys = [] := by
  induction lines generalizing index with
  | nil => rfl
  | cons line rest ih =>
      obtain ⟨here, others⟩ := List.forall_mem_cons.mp body
      obtain ⟨next, keys, -⟩ := visit_body place column index line block here
      rw [sites_from_keys, next, keys, ih (index + 1) others]
      rfl

def indented (indent : Nat) (line : List Char) : List Char :=
  if Text.allBlank line then line else List.replicate indent ' ' ++ line

def mappingHead (outer inner : Nat) : Lines :=
  ["pipeline:".toList, List.replicate outer ' ' ++ "processors:".toList, List.replicate inner ' ' ++ "- mapping: |".toList]

def mappingLines (outer inner indent : Nat) (expression : Lines) : Lines :=
  mappingHead outer inner ++ expression.map (indented indent)

def mappingPlace (outer inner : Nat) : Place :=
  ⟨[(inner + 2, .key "mapping"), (inner, .item), (outer, .key "processors"), (0, .key "pipeline")], some ⟨inner + 2, true⟩⟩

def mappingKeys (outer inner : Nat) : List KeySite :=
  [⟨0, 0, "pipeline", []⟩, ⟨1, outer, "processors", [.key "pipeline"]⟩,
    ⟨2, inner + 2, "mapping", [.item, .key "processors", .key "pipeline"]⟩]

theorem visit_spaced (levels : List (Nat × Level)) (index count : Nat) (c : Char) (rest : List Char)
    (solid : Text.isBlank c = false) (mark : c ≠ '#') (no_marker : Document.isMarker (Text.trimRight (c :: rest)) = false) :
    visitLine levels index (List.replicate count ' ' ++ c :: rest) =
      match dashWidth? (c :: rest) with
      | some width =>
          if inkEnd (c :: rest) ≤ width then (⟨(count, .item) :: aboveItem count levels, none⟩, {})
          else
            visitEntry ((count, .item) :: aboveItem count levels) index (List.replicate count ' ' ++ c :: rest) (count + width)
      | none => visitEntry levels index (List.replicate count ' ' ++ c :: rest) count := by
  have space : c ≠ ' ' := by
    rintro rfl
    cases solid
  have ink : Text.trimRight (c :: rest) ≠ [] := fun nothing => by
    have all := (Text.dropTrailing_eq_nil_iff _ _).mp nothing
    rw [List.all_cons, solid] at all
    cases all
  have trimmed : Text.trim (List.replicate count ' ' ++ c :: rest) = Text.trimRight (c :: rest) := by
    unfold Text.trim Text.trimLeft
    rw [List.dropWhile_append_of_pos (Text.spaces_blank count), List.dropWhile_cons_of_neg (by simp [solid])]
  have first : (Text.trimRight (c :: rest)).head? = some c := by
    unfold Text.trimRight Text.dropTrailing
    split <;> simp [solid]
  have indent : indentOf (List.replicate count ' ' ++ c :: rest) = count := by
    unfold indentOf
    rw [List.takeWhile_append_of_pos (by simp), List.takeWhile_cons_of_neg (by simpa using space), List.append_nil,
      List.length_replicate]
  have dropped : (List.replicate count ' ' ++ c :: rest).drop count = c :: rest := List.drop_left' List.length_replicate
  have reach := ink_end_append (List.replicate count ' ') (c :: rest) ink
  rw [List.length_replicate] at reach
  unfold visitLine
  simp only
  rw [trimmed, first, indent, no_marker, dropped, reach]
  cases dashWidth? (c :: rest) with
  | none => simp [ink, mark]
  | some width => simp [ink, mark]

theorem visit_quiet_key (levels : List (Nat × Level)) (index column : Nat) (line key value : List Char)
    (entry : plainEntry? (line.drop column) = some (key, value)) (quiet : value = [] ∨ opensBlock value = true) :
    visitEntry levels index line column =
      (entryPlace levels column (String.ofList key) (opensBlock value),
        ⟨[entrySite levels index column (String.ofList key)], []⟩) := by
  unfold visitEntry
  simp only [entry]
  rcases quiet with rfl | opens
  · have behind : line.drop (column + (line.drop column).length) = [] :=
      List.drop_eq_nil_of_le (by rw [List.length_drop]; omega)
    simp only [valueStretches, List.length_nil, Nat.sub_zero, behind]
    rfl
  · rw [opens]
    rfl

theorem visit_pipeline :
    visit {} 0 "pipeline:".toList = (⟨[(0, .key "pipeline")], none⟩, ⟨[⟨0, 0, "pipeline", []⟩], []⟩) :=
  rfl

theorem visit_processors (outer : Nat) (nested : 0 < outer) :
    visit ⟨[(0, .key "pipeline")], none⟩ 1 (List.replicate outer ' ' ++ "processors:".toList) =
      (⟨[(outer, .key "processors"), (0, .key "pipeline")], none⟩, ⟨[⟨1, outer, "processors", [.key "pipeline"]⟩], []⟩) := by
  have entry : plainEntry? ((List.replicate outer ' ' ++ "processors:".toList).drop outer) =
      some ("processors".toList, []) := by
    rw [List.drop_left' List.length_replicate]
    decide
  have below : aboveEntry outer [(0, .key "pipeline")] = [(0, .key "pipeline")] :=
    List.dropWhile_cons_of_neg (by simp only [decide_eq_true_eq]; omega)
  have seen := visit_spaced [(0, .key "pipeline")] 1 outer 'p' "rocessors:".toList (by decide) (by decide) (by decide)
  refine (seen.trans (visit_quiet_key _ 1 outer _ "processors".toList [] entry (.inl rfl))).trans ?_
  rw [String.ofList_toList, entryPlace, entrySite, below]
  rfl

theorem visit_mapping (outer inner : Nat) (nested : outer ≤ inner) :
    visit ⟨[(outer, .key "processors"), (0, .key "pipeline")], none⟩ 2 (List.replicate inner ' ' ++ "- mapping: |".toList) =
      (mappingPlace outer inner, ⟨[⟨2, inner + 2, "mapping", [.item, .key "processors", .key "pipeline"]⟩], []⟩) := by
  have entry : plainEntry? ((List.replicate inner ' ' ++ "- mapping: |".toList).drop (inner + 2)) =
      some ("mapping".toList, ['|']) := by
    rw [← List.drop_drop, List.drop_left' List.length_replicate]
    decide
  have item : aboveItem inner [(outer, .key "processors"), (0, .key "pipeline")] =
      [(outer, .key "processors"), (0, .key "pipeline")] :=
    List.dropWhile_cons_of_neg (by simpa using nested)
  have below : aboveEntry (inner + 2) [(inner, .item), (outer, .key "processors"), (0, .key "pipeline")] =
      [(inner, .item), (outer, .key "processors"), (0, .key "pipeline")] :=
    List.dropWhile_cons_of_neg (by simp)
  have seen := visit_spaced [(outer, .key "processors"), (0, .key "pipeline")] 2 inner '-' " mapping: |".toList (by decide)
    (by decide) (by decide)
  rw [item] at seen
  refine (seen.trans (visit_quiet_key _ 2 (inner + 2) _ "mapping".toList ['|'] entry (.inr rfl))).trans ?_
  rw [String.ofList_toList, entryPlace, entrySite, entryIsExpression, below]
  rfl

section
variable (outer inner : Nat) (nested : 0 < outer) (deeper : outer ≤ inner) (body : Lines)
  (inside : ∀ line ∈ body, IsBody (inner + 2) line)
include nested deeper

theorem mapping_calls (kind : CallKind) :
    (sites (mappingHead outer inner ++ body)).calls kind (mappingHead outer inner ++ body) =
      callsThrough kind (mappingPlace outer inner) 3 body := by
  rw [calls_through]
  simp only [mappingHead, List.cons_append, List.nil_append, callsThrough, visit_pipeline,
    visit_processors outer nested, visit_mapping outer inner deeper]
  rfl

include inside

theorem mapping_keys : (sites (mappingHead outer inner ++ body)).keys = mappingKeys outer inner := by
  have later := body_keys (mappingPlace outer inner) (inner + 2) 3 body rfl inside
  simp only [sites, mappingHead, List.cons_append, List.nil_append, sites_from_keys, visit_pipeline,
    visit_processors outer nested, visit_mapping outer inner deeper, later]
  rfl

theorem fix_mapping_calls (kind : CallKind) :
    (fixCalls kind (mappingHead outer inner ++ body)).1 = mappingHead outer inner ++ body.map (renamedIn kind) := by
  have renamed := rename_body (mappingPlace outer inner) (inner + 2) kind (mappingHead outer inner) body rfl inside
  show renameCalls (replacedCalls kind ((sites _).calls kind _)) _ = _
  rw [mapping_calls outer inner nested deeper]
  exact renamed

theorem mapping_keys_settled :
    OutlineSettled (sites (mappingHead outer inner ++ body)).keys ∧ KeysSettled (mappingHead outer inner ++ body) := by
  have keys := mapping_keys outer inner nested deeper body inside
  have metadata : ∀ site ∈ mappingKeys outer inner, keyReplacement? site.key site.above = none := by
    simp only [mappingKeys, List.forall_mem_cons, List.not_mem_nil, false_implies, implies_true, and_true]
    decide +kernel
  unfold KeysSettled
  rw [keys]
  exact ⟨.inl ⟨⟨1, outer, "processors", [.key "pipeline"]⟩, by simp [mappingKeys], rfl, rfl⟩, metadata⟩

end

theorem indented_body (column indent : Nat) (line : List Char) (deep : column < indent) :
    IsBody column (indented indent line) := by
  unfold indented
  cases ink : Text.allBlank line with
  | true =>
      rw [if_pos rfl]
      exact .inl ink
  | false =>
      rw [if_neg Bool.false_ne_true]
      refine .inr ?_
      unfold indentOf
      rw [List.takeWhile_append_of_pos (by simp), List.length_append, List.length_replicate]
      exact Nat.lt_of_lt_of_le deep (Nat.le_add_right _ _)

theorem renamed_indented (kind : CallKind) (indent : Nat) (line : List Char) :
    renamedIn kind (indented indent line) = indented indent (renamedIn kind line) := by
  unfold indented
  rw [renamed_blank]
  split
  · rfl
  · exact renamed_behind_blanks kind _ line (Text.spaces_blank indent)

theorem mapping_pass (outer inner indent : Nat) (expression : Lines) (nested : 0 < outer) (deeper : outer ≤ inner)
    (deep : inner + 2 < indent) :
    (pass (mappingLines outer inner indent expression)).1 = mappingLines outer inner indent (expression.map corrected) := by
  have inside (lines : Lines) : ∀ line ∈ lines.map (indented indent), IsBody (inner + 2) line :=
    List.forall_mem_map.mpr fun line _ => indented_body (inner + 2) indent line deep
  have renamed (kind : CallKind) (lines : Lines) :
      (lines.map (indented indent)).map (renamedIn kind) = (lines.map (renamedIn kind)).map (indented indent) := by
    simp only [List.map_map, Function.comp_def, renamed_indented]
  have both : (expression.map (renamedIn .method)).map (renamedIn .function) = expression.map corrected := by
    simp only [List.map_map, Function.comp_def, renamed_both]
  obtain ⟨outline, keys⟩ := mapping_keys_settled outer inner nested deeper _ (inside expression)
  rw [pass_eq]
  simp only [mappingLines]
  rw [fix_outline_idle _ outline, fix_components_idle _ keys,
    fix_mapping_calls outer inner nested deeper _ (inside _), renamed,
    fix_mapping_calls outer inner nested deeper _ (inside _), renamed, both]

theorem mapping_passed (outer inner indent limit : Nat) (expression : Lines) (nested : 0 < outer) (deeper : outer ≤ inner)
    (deep : inner + 2 < indent) :
    passed (limit + 1) (mappingLines outer inner indent expression) =
      mappingLines outer inner indent (expression.map corrected) := by
  have inside : ∀ line ∈ (expression.map corrected).map (indented indent), IsBody (inner + 2) line :=
    List.forall_mem_map.mpr fun line _ => indented_body (inner + 2) indent line deep
  have whole := mapping_pass outer inner indent expression nested deeper deep
  obtain ⟨outline, keys⟩ := mapping_keys_settled outer inner nested deeper _ inside
  obtain ⟨methods, functions⟩ := pass_calls (mappingLines outer inner indent expression)
  rw [whole] at methods functions
  rw [passed, whole]
  exact passed_settled limit _ ⟨outline, keys, methods, functions⟩

end PipelineLint.Repair

namespace PipelineLint

open Repair Expression

def mappingText (outer inner indent : Nat) (expression : List Char) : String :=
  String.ofList (Text.joinFeeds (mappingLines outer inner indent (Text.splitFeeds expression)))

theorem mapping_are_lines (outer inner indent : Nat) (expression : Lines) :
    AreLines (mappingLines outer inner indent expression) ↔ ∀ line ∈ expression, '\n' ∉ line := by
  have spaces (count : Nat) : '\n' ∉ List.replicate count ' ' := by simp
  have same (line : List Char) : '\n' ∉ indented indent line ↔ '\n' ∉ line := by
    unfold indented
    split
    · rfl
    · simp
  have head : ∀ line ∈ mappingHead outer inner, '\n' ∉ line := by
    simp only [mappingHead, List.forall_mem_cons, List.mem_append, spaces, false_or]
    decide
  constructor
  · intro are line member
    exact (same line).mp (are.no_feed _ (List.mem_append_right _ (List.mem_map_of_mem member)))
  · intro no_feed
    refine ⟨by simp [mappingLines, mappingHead], List.forall_mem_append.mpr ⟨head, List.forall_mem_map.mpr ?_⟩⟩
    exact fun line member => (same line).mpr (no_feed line member)

theorem mapping_within (outer inner indent count : Nat) (expression : List Char) (nested : 0 < outer) (deeper : outer ≤ inner)
    (deep : inner + 2 < indent) :
    (repairWithin (count + 1) (mappingText outer inner indent expression)).text =
      mappingText outer inner indent (Text.joinFeeds ((Text.splitFeeds expression).map corrected)) := by
  have are_parts := split_feeds_lines expression
  have are := (mapping_are_lines outer inner indent _).mpr are_parts.no_feed
  have whole := mapping_passed outer inner indent count (Text.splitFeeds expression) nested deeper deep
  have are_passed := passed_lines (count + 1) _ are
  rw [whole] at are_passed
  have are_corrected : AreLines ((Text.splitFeeds expression).map corrected) :=
    ⟨by simpa using are_parts.some_line, (mapping_are_lines outer inner indent _).mp are_passed⟩
  rw [repair_within_eq]
  simp only
  rw [passes_lines, mappingText, String.toList_ofList, split_join_feeds _ are, whole, mappingText,
    split_join_feeds _ are_corrected]

-- A repair corrects an expression line by line, and so it corrects the whole expression where no literal and no call goes
-- over the end of a line.
theorem mapping_repaired (outer inner indent : Nat) (expression : List Char) (limit : Int) (nested : 0 < outer)
    (deeper : outer ≤ inner) (deep : inner + 2 < indent) (some_pass : 1 ≤ limit) :
    ∃ repaired, repair (mappingText outer inner indent expression) limit = .ok repaired ∧
      repaired.text = mappingText outer inner indent (Text.joinFeeds ((Text.splitFeeds expression).map corrected)) ∧
      (LineByLine (Text.splitFeeds expression) → repaired.text = mappingText outer inner indent (corrected expression)) := by
  obtain ⟨count, rfl⟩ := Int.eq_ofNat_of_zero_le (Int.le_trans (by decide) some_pass)
  obtain ⟨count, rfl⟩ := Nat.exists_eq_add_of_le' (by exact_mod_cast some_pass : 1 ≤ count)
  have text := mapping_within outer inner indent count expression nested deeper deep
  refine ⟨_, repair_ok _ (count + 1) (Nat.succ_pos count), text, fun apart => ?_⟩
  rw [text, ← corrected_lines _ apart, Text.joinFeeds_splitFeeds]

def twoLines : String :=
  "root.id = uuid4() # no uuid()\nroot.name = this.name.upper() + \".upper()\""

theorem mapping_repaired_two_lines : (0 < 2 ∧ 2 ≤ 4 ∧ 4 + 2 < 8 ∧ (1 : Int) ≤ defaultLimit) ∧
    ∃ repaired, repair (mappingText 2 4 8 twoLines.toList) defaultLimit = .ok repaired ∧
      repaired.text = mappingText 2 4 8
        "root.id = uuid_v4() # no uuid()\nroot.name = this.name.uppercase() + \".upper()\"".toList := by
  obtain ⟨repaired, done, -, whole⟩ :=
    mapping_repaired 2 4 8 twoLines.toList defaultLimit (by decide) (by decide) (by decide) (by decide)
  have apart : LineByLine (Text.splitFeeds twoLines.toList) := by decide +kernel
  have expected : corrected twoLines.toList =
      "root.id = uuid_v4() # no uuid()\nroot.name = this.name.uppercase() + \".upper()\"".toList := by decide +kernel
  exact ⟨by decide, repaired, done, expected ▸ whole apart⟩

-- A literal over three lines. The repair takes the one in the middle for code.
def literalLines : String :=
  "root.a = \"\"\"\nthis.parseJson()\n\"\"\"\n"

theorem literal_line_renamed :
    mappingText 2 4 8 literalLines.toList = "pipeline:\n  processors:\n    - mapping: |\n        root.a = \"\"\"\n" ++
        "        this.parseJson()\n        \"\"\"\n" ∧
      calls literalLines.toList = [] ∧ corrected literalLines.toList = literalLines.toList ∧
      ∃ repaired, repair (mappingText 2 4 8 literalLines.toList) defaultLimit = .ok repaired ∧
        repaired.text ≠ mappingText 2 4 8 (corrected literalLines.toList) := by
  have whole : corrected literalLines.toList = literalLines.toList := by decide +kernel
  refine ⟨by decide +kernel, by decide +kernel, whole, _, repair_default _, ?_⟩
  rw [mapping_within 2 4 8 9 _ (by decide) (by decide) (by decide), whole]
  decide +kernel

end PipelineLint
