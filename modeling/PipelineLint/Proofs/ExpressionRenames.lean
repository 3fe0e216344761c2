import PipelineLint.Proofs.DocumentCalls
import PipelineLint.Proofs.LineEnds

set_option autoImplicit false

namespace PipelineLint.Repair

open Expression

def misnamedSites (sites : List CallSite) : List (CallSite × String) :=
  sites.filterMap fun site => (Catalog.callReplacement? site.kind (String.ofList site.name)).map (site, ·)

theorem misnamed_append (first second : List CallSite) :
    misnamedSites (first ++ second) = misnamedSites first ++ misnamedSites second :=
  List.filterMap_append

def nameAt? (renamed : List (CallSite × String)) (place : Nat) : Option (CallSite × String) :=
  renamed.find? fun (site, _) => decide (site.start ≤ place ∧ place < site.stop)

-- The other name stands in place of the first character of a renamed name, and nothing in place of its others.
def correctedFrom (renamed : List (CallSite × String)) : (offset : Nat) → List Char → List Char
  | _, [] => []
  | offset, c :: rest =>
      (match nameAt? renamed offset with
        | none => [c]
        | some (site, name) => if offset = site.start then name.toList else []) ++
        correctedFrom renamed (offset + 1) rest

-- An expression with all of its misnamed calls renamed, and nothing else changed.
def corrected (text : List Char) : List Char :=
  correctedFrom (misnamedSites (calls text)) 0 text

theorem corrected_append (renamed : List (CallSite × String)) (offset : Nat) (front back : List Char) :
    correctedFrom renamed offset (front ++ back) =
      correctedFrom renamed offset front ++ correctedFrom renamed (offset + front.length) back := by
  induction front generalizing offset with
  | nil => rfl
  | cons c front ih =>
      have place : offset + 1 + front.length = offset + (c :: front).length := by rw [List.length_cons]; omega
      rw [List.cons_append, correctedFrom, correctedFrom, ih, place, List.append_assoc]

theorem corrected_congr (renamed others : List (CallSite × String)) (offset : Nat) (text : List Char)
    (same : ∀ place, offset ≤ place → place < offset + text.length → nameAt? renamed place = nameAt? others place) :
    correctedFrom renamed offset text = correctedFrom others offset text := by
  induction text generalizing offset with
  | nil => rfl
  | cons c text ih =>
      have later := ih (offset + 1) fun place behind before =>
        same place (by omega) (by rw [List.length_cons]; omega)
      rw [correctedFrom, correctedFrom, same offset (Nat.le_refl _) (by rw [List.length_cons]; omega), later]

theorem name_at_none (renamed : List (CallSite × String)) (place : Nat)
    (apart : ∀ entry ∈ renamed, entry.1.stop ≤ place ∨ place < entry.1.start) : nameAt? renamed place = none := by
  refine List.find?_eq_none.mpr fun entry member => ?_
  have away := apart entry member
  simp only [decide_eq_true_eq]
  omega

theorem name_at_append (first second : List (CallSite × String)) (place : Nat) :
    nameAt? (first ++ second) place = (nameAt? first place).or (nameAt? second place) :=
  List.find?_append

theorem corrected_plain (renamed : List (CallSite × String)) (offset : Nat) (text : List Char)
    (apart : ∀ entry ∈ renamed, entry.1.stop ≤ offset ∨ offset + text.length ≤ entry.1.start) :
    correctedFrom renamed offset text = text := by
  have nothing := corrected_congr renamed [] offset text fun place behind before => by
    refine (name_at_none renamed place fun entry member => ?_).trans rfl
    have away := apart entry member
    omega
  rw [nothing]
  clear nothing apart
  induction text generalizing offset with
  | nil => rfl
  | cons c text ih => exact congrArg (c :: ·) (ih (offset + 1))

def movedEntry (offset : Nat) (entry : CallSite × String) : CallSite × String :=
  (entry.1.moved offset, entry.2)

theorem misnamed_moved (offset : Nat) (sites : List CallSite) :
    misnamedSites (sites.map (CallSite.moved offset)) = (misnamedSites sites).map (movedEntry offset) := by
  unfold misnamedSites
  rw [List.filterMap_map, List.map_filterMap]
  congr 1
  funext site
  simp only [Function.comp_apply, Option.map_map]
  rfl

theorem moved_range (offset place : Nat) (site : CallSite) :
    ((site.moved offset).start ≤ offset + place ∧ offset + place < (site.moved offset).stop) ↔
      site.start ≤ place ∧ place < site.stop := by
  simp only [CallSite.moved, CallSite.stop]
  omega

theorem name_at_moved (renamed : List (CallSite × String)) (offset place : Nat) :
    nameAt? (renamed.map (movedEntry offset)) (offset + place) = (nameAt? renamed place).map (movedEntry offset) := by
  unfold nameAt?
  rw [List.find?_map]
  congr 2
  funext entry
  simp only [Function.comp_apply, movedEntry, moved_range]

theorem corrected_moved (renamed : List (CallSite × String)) (offset place : Nat) (text : List Char) :
    correctedFrom (renamed.map (movedEntry offset)) (offset + place) text = correctedFrom renamed place text := by
  induction text generalizing place with
  | nil => rfl
  | cons c text ih =>
      have later := ih (place + 1)
      rw [← Nat.add_assoc] at later
      rw [correctedFrom, correctedFrom, later, name_at_moved]
      cases nameAt? renamed place with
      | none => rfl
      | some entry => simp [movedEntry, CallSite.moved]

theorem misnamed_range (sites : List CallSite) (entry : CallSite × String) (member : entry ∈ misnamedSites sites) :
    entry.1 ∈ sites := by
  obtain ⟨site, inside, found⟩ := List.mem_filterMap.mp member
  obtain ⟨name, -, rfl⟩ := Option.map_eq_some_iff.mp found
  exact inside

theorem calls_kinds (text : List Char) : calls text = callsOf .method text ++ callsOf .function text := rfl

theorem corrected_split (front back : List Char) (early : CallKind → List CallSite)
    (split : ∀ kind, callsOf kind (front ++ back) =
      early kind ++ (callsOf kind back).map (CallSite.moved front.length))
    (bound : ∀ kind, ∀ site ∈ early kind, site.stop ≤ front.length) :
    corrected (front ++ back) =
      correctedFrom (misnamedSites (early .method ++ early .function)) 0 front ++ corrected back := by
  have before (kind : CallKind) (place : Nat) (behind : front.length ≤ place) :
      nameAt? (misnamedSites (early kind)) place = none :=
    name_at_none _ place fun entry member =>
      .inl (Nat.le_trans (bound kind entry.1 (misnamed_range _ entry member)) behind)
  have later (kind : CallKind) (place : Nat) (inside : place < front.length) :
      nameAt? (misnamedSites ((callsOf kind back).map (CallSite.moved front.length))) place = none := by
    refine name_at_none _ place fun entry member => .inr ?_
    obtain ⟨site, -, moved⟩ := List.mem_map.mp (misnamed_range _ entry member)
    rw [← moved]
    exact Nat.lt_of_lt_of_le inside (Nat.le_add_right _ _)
  have moved := corrected_moved (misnamedSites (calls back)) front.length 0 back
  rw [← misnamed_moved, calls_kinds, List.map_append] at moved
  unfold corrected
  rw [corrected_append, Nat.zero_add, calls_kinds (front ++ back), split, split, calls_kinds back, ← moved]
  congr 1
  · refine corrected_congr _ _ 0 front fun place _ inside => ?_
    rw [Nat.zero_add] at inside
    simp only [misnamed_append, name_at_append, later _ place inside, Option.or_none]
  · refine corrected_congr _ _ _ back fun place behind _ => ?_
    simp only [misnamed_append, name_at_append, before _ place behind, Option.none_or]

theorem call_stop (kind : CallKind) (text : List Char) : ∀ site ∈ callsOf kind text, site.stop ≤ text.length := by
  intro site member
  obtain ⟨front, back, found⟩ := List.append_of_mem member
  obtain ⟨pre, tail, masked, -, -, -, place, -⟩ := calls_split kind _ front back site found
  have length : (mask text).length = text.length := length_maskFrom .code text
  rw [← length, masked, place]
  simp [CallSite.stop]

theorem corrected_with_feed (line : List Char) :
    correctedFrom (misnamedSites (calls line)) 0 (line ++ ['\n']) = corrected line ++ ['\n'] := by
  rw [corrected_append, corrected_plain _ _ ['\n']]
  · rfl
  · intro entry member
    rw [Nat.zero_add]
    rcases List.mem_append.mp (misnamed_range _ entry member) with method | function
    · exact .inl (call_stop .method line entry.1 method)
    · exact .inl (call_stop .function line entry.1 function)

theorem corrected_first_line (line next : List Char) (rest : Lines) (apart : LineByLine (line :: next :: rest)) :
    corrected (Text.joinFeeds (line :: next :: rest)) =
      corrected line ++ '\n' :: corrected (Text.joinFeeds (next :: rest)) := by
  have length : (line ++ ['\n']).length = line.length + 1 := List.length_append
  have split (kind : CallKind) := calls_first_line kind line next rest apart
  rw [Text.joinFeeds_cons_cons, List.append_cons] at split
  rw [Text.joinFeeds_cons_cons, List.append_cons, corrected_split _ _ (callsOf · line) (length ▸ split), ← calls_kinds,
    corrected_with_feed, ← List.append_cons]
  intro kind site member
  exact Nat.le_trans (call_stop kind line site member) (by omega)

theorem corrected_lines (lines : Lines) (apart : LineByLine lines) :
    corrected (Text.joinFeeds lines) = Text.joinFeeds (lines.map corrected) := by
  induction lines with
  | nil => rfl
  | cons line rest ih =>
      cases rest with
      | nil => simp
      | cons next rest =>
          rw [corrected_first_line line next rest apart, ih apart.2]
          exact (Text.joinFeeds_cons_cons _ _ _).symm

structure FirstCall (kind : CallKind) (text before name tail pre : List Char) : Prop where
  split : text = before ++ (name ++ tail)
  cuts : Cuts .code before pre
  identifier : Text.isIdentifier name = true
  opens : Opens (mask tail)
  outside : isOutside (charBehind none pre) = true
  here : callHere kind pre name pre.length = [⟨name, kind, pre.length⟩]
  first : ∀ another, callsFrom another 0 pre = []

theorem opens_longer (tail rest : List Char) (opens : Opens tail) : Opens (tail ++ rest) := by
  obtain ⟨gap, behind, rfl, blank⟩ := opens
  exact ⟨gap, behind ++ rest, by simp, blank⟩

-- If anything is called, a call of some kind is the first of all: what one finds in front of a call is looked for again in
-- the shorter text there.
theorem first_call_masked (masked : List Char) :
    (∀ kind, callsFrom kind 0 masked = []) ∨
      ∃ kind pre name tail, masked = pre ++ (name ++ tail) ∧ Text.isIdentifier name = true ∧ Opens tail ∧
        isOutside (charBehind none pre) = true ∧ callHere kind pre name pre.length = [⟨name, kind, pre.length⟩] ∧
        ∀ another, callsFrom another 0 pre = [] := by
  by_cases silent : ∀ kind, callsFrom kind 0 masked = []
  · exact .inl silent
  · refine .inr ?_
    obtain ⟨kind, some_call⟩ := not_forall.mp silent
    obtain ⟨site, back, found⟩ := List.exists_cons_of_ne_nil some_call
    obtain ⟨pre, tail, split, identifier, opens, outside, place, here, -⟩ := calls_split kind masked [] back site found
    rcases first_call_masked pre with none_ahead | ⟨other, front, name, rest, whole, named, behind, apart, called, first⟩
    · exact ⟨kind, pre, site.name, tail, split, identifier, opens, outside, place ▸ here, none_ahead⟩
    · refine ⟨other, front, name, rest ++ (site.name ++ tail), ?_, named, opens_longer rest _ behind, apart, called, first⟩
      rw [split, whole, List.append_assoc, List.append_assoc]
termination_by masked.length
decreasing_by
  obtain ⟨c, letters, name, -⟩ := Text.identifier_cases site.name identifier
  rw [split, name]
  simp

theorem first_call (text : List Char) :
    (∀ kind, callsOf kind text = []) ∨ ∃ kind before name tail pre, FirstCall kind text before name tail pre := by
  rcases first_call_masked (mask text) with silent | ⟨kind, pre, name, shown, masked, identifier, opens, outside, here, first⟩
  · exact .inl silent
  · obtain ⟨before, tail, split, behind, cuts⟩ := masked_name text pre name shown identifier masked
    have visible : Opens (mask tail) := by
      unfold mask
      rw [behind]
      exact opens
    exact .inr ⟨kind, before, name, tail, pre, split, cuts, identifier, visible, outside, here, first⟩

section
variable (kind : CallKind) (text before name tail pre : List Char) (called : FirstCall kind text before name tail pre)
include called

theorem first_call_here (another : CallKind) :
    callHere another pre name pre.length = if another = kind then [⟨name, kind, before.length⟩] else [] := by
  by_cases same : another = kind
  · rw [if_pos same, same, called.here, called.cuts.1]
  · rw [if_neg same]
    exact call_here_kinds kind another pre name name _ called.here same

theorem first_call_mask : mask text = pre ++ (name ++ mask tail) := by
  rw [called.split]
  exact mask_name before pre name tail called.cuts called.identifier

theorem first_call_name : ∃ first letters, name = first :: letters ∧ Text.isNameStart first = true := by
  obtain ⟨first, letters, split, starts, -⟩ := Text.identifier_cases name called.identifier
  exact ⟨first, letters, split, starts⟩

theorem first_call_shorter : tail.length < text.length := by
  obtain ⟨first, letters, rfl, -⟩ := first_call_name kind text before name tail pre called
  rw [called.split]
  simp only [List.length_append, List.length_cons]
  omega

theorem first_call_calls (another : CallKind) :
    callsOf another text = (if another = kind then [⟨name, kind, before.length⟩] else []) ++
      (callsOf another tail).map (CallSite.moved (before ++ name).length) := by
  unfold callsOf
  rw [first_call_mask kind text before name tail pre called,
    calls_cut another pre name _ called.identifier called.opens called.outside, called.first another,
    first_call_here kind text before name tail pre called another, ← called.cuts.1, List.nil_append,
    calls_moved another (before.length + name.length), List.length_append]

end

theorem corrected_gone (site : CallSite) (target : String) (place : Nat) (text : List Char) (behind : site.start < place)
    (inside : place + text.length ≤ site.stop) : correctedFrom [(site, target)] place text = [] := by
  induction text generalizing place with
  | nil => rfl
  | cons c text ih =>
      rw [List.length_cons] at inside
      have part : nameAt? [(site, target)] place = some (site, target) := by
        simp [nameAt?, Nat.le_of_lt behind, (by omega : place < site.stop)]
      rw [correctedFrom, part, ih (place + 1) (by omega) (by omega)]
      simp [Nat.ne_of_gt behind]

theorem corrected_name (site : CallSite) (target : String) (some_name : site.name ≠ []) :
    correctedFrom [(site, target)] site.start site.name = target.toList := by
  obtain ⟨c, letters, name⟩ := List.exists_cons_of_ne_nil some_name
  have stop : site.stop = site.start + 1 + letters.length := by rw [CallSite.stop, name, List.length_cons]; omega
  have part : nameAt? [(site, target)] site.start = some (site, target) := by
    simp [nameAt?, (by omega : site.start < site.stop)]
  rw [name, correctedFrom, part, corrected_gone site target _ letters (Nat.lt_succ_self _) (Nat.le_of_eq stop.symm)]
  simp

theorem misnamed_one (site : CallSite) :
    misnamedSites [site] =
      ((Catalog.callReplacement? site.kind (String.ofList site.name)).map (site, ·)).toList := by
  unfold misnamedSites
  cases found : Catalog.callReplacement? site.kind (String.ofList site.name) <;> simp [found]

theorem first_call_corrected (kind : CallKind) (text before name tail pre : List Char)
    (called : FirstCall kind text before name tail pre) :
    corrected text = before ++ ((repairedName kind (String.ofList name)).toList ++ corrected tail) := by
  have some_name : name ≠ [] := by
    obtain ⟨first, letters, rfl, -⟩ := first_call_name kind text before name tail pre called
    exact List.cons_ne_nil first letters
  have calls (another : CallKind) := first_call_calls kind text before name tail pre called another
  have whole : text = (before ++ name) ++ tail := by rw [called.split, List.append_assoc]
  rw [whole] at calls ⊢
  have one : (if CallKind.method = kind then [CallSite.mk name kind before.length] else []) ++
      (if CallKind.function = kind then [CallSite.mk name kind before.length] else []) = [⟨name, kind, before.length⟩] := by
    cases kind <;> rfl
  rw [corrected_split _ tail _ calls, one, misnamed_one]
  · rw [← List.append_assoc before]
    congr 1
    unfold repairedName
    cases Catalog.callReplacement? kind (String.ofList name) with
    | none =>
        rw [Option.getD_none, String.toList_ofList]
        exact corrected_plain [] 0 (before ++ name) nofun
    | some target =>
        have ahead : correctedFrom [(⟨name, kind, before.length⟩, target)] 0 before = before :=
          corrected_plain _ 0 before fun entry member => .inr (by rw [List.mem_singleton.mp member, Nat.zero_add])
        have there := corrected_name ⟨name, kind, before.length⟩ target some_name
        rw [Option.map_some, Option.toList_some, corrected_append, ahead, Nat.zero_add, there, Option.getD_some]
  · intro another site member
    rw [List.length_append]
    split at member
    · rw [List.mem_singleton.mp member, CallSite.stop]
    · cases member

def renameSites (found : List (CallSite × String)) (text : List Char) : List Char :=
  found.foldr (fun (site, name) text => replaceRange site.start site.stop name text) text

def renamedIn (kind : CallKind) (text : List Char) : List Char :=
  renameSites (misnamedSites (callsOf kind text)) text

theorem rename_sites_moved (found : List (CallSite × String)) (front text : List Char) :
    renameSites (found.map (movedEntry front.length)) (front ++ text) = front ++ renameSites found text := by
  induction found with
  | nil => rfl
  | cons entry found ih =>
      obtain ⟨site, name⟩ := entry
      have stop : (site.moved front.length).stop = front.length + site.stop := Nat.add_assoc _ _ _
      show replaceRange (front.length + site.start) (site.moved front.length).stop name (renameSites _ (front ++ text)) =
        front ++ replaceRange site.start site.stop name (renameSites found text)
      rw [ih, stop]
      unfold replaceRange
      rw [List.take_length_add_append, List.drop_length_add_append, List.append_assoc, List.append_assoc, List.append_assoc]

theorem first_call_renamed (kind : CallKind) (text before name tail pre : List Char)
    (called : FirstCall kind text before name tail pre) (another : CallKind) :
    renamedIn another text =
      before ++ ((if another = kind then (repairedName kind (String.ofList name)).toList else name) ++
        renamedIn another tail) := by
  have whole : text = (before ++ name) ++ tail := by rw [called.split, List.append_assoc]
  have behind : renameSites (misnamedSites ((callsOf another tail).map (CallSite.moved (before ++ name).length))) text =
      (before ++ name) ++ renamedIn another tail := by
    rw [misnamed_moved, whole]
    exact rename_sites_moved _ (before ++ name) tail
  unfold renamedIn at behind ⊢
  rw [first_call_calls kind text before name tail pre called another, misnamed_append, renameSites,
    List.foldr_append]
  change List.foldr _ (renameSites _ text) _ = _
  rw [behind]
  split
  · rw [misnamed_one]
    unfold repairedName
    cases Catalog.callReplacement? kind (String.ofList name) with
    | none => simp
    | some target =>
        have replaced := replace_range_name before name (renameSites (misnamedSites (callsOf another tail)) tail) target
        simp only [Option.map_some, Option.toList_some, List.foldr_cons, List.foldr_nil, Option.getD_some]
        rw [List.append_assoc]
        exact replaced
  · rw [List.append_assoc]
    rfl

theorem opens_front (pre rest other : List Char) (first : Char) (starts : Text.isNameStart first = true)
    (opens : Opens (pre ++ first :: rest)) : Opens (pre ++ other) := by
  obtain ⟨gap, behind, split, blank⟩ := opens
  rcases List.append_eq_append_iff.mp split with ⟨more, rfl, later⟩ | ⟨more, rfl, later⟩
  · cases more with
    | nil =>
        have bracket : first = '(' := (List.cons.inj later).1
        rw [bracket] at starts
        cases starts
    | cons c more =>
        have gap_first : first = c := (List.cons.inj later).1
        have visible := Text.word_not_blank first (Text.isWord_of_isNameStart starts)
        rw [gap_first, blank c (by simp)] at visible
        cases visible
  · cases more with
    | nil =>
        have bracket : '(' = first := (List.cons.inj later).1
        rw [← bracket] at starts
        cases starts
    | cons c more =>
        obtain ⟨rfl, -⟩ := List.cons.inj later
        exact ⟨gap, more ++ other, by simp, blank⟩

theorem first_call_swapped (kind : CallKind) (text before name tail pre : List Char)
    (called : FirstCall kind text before name tail pre) (another : CallKind) (opens : Opens (mask (renamedIn another tail))) :
    FirstCall kind (renamedIn another text) before
      (if another = kind then (repairedName kind (String.ofList name)).toList else name) (renamedIn another tail) pre := by
  have split := first_call_renamed kind text before name tail pre called another
  obtain ⟨-, cuts, identifier, -, outside, here, first⟩ := called
  have same : FirstCall kind (before ++ (name ++ renamedIn another tail)) before name (renamedIn another tail) pre :=
    ⟨rfl, cuts, identifier, opens, outside, here, first⟩
  rw [split]
  by_cases renamed : another = kind
  · rw [if_pos renamed]
    unfold repairedName
    cases found : Catalog.callReplacement? kind (String.ofList name) with
    | none =>
        rw [Option.getD_none, String.toList_ofList]
        exact same
    | some target =>
        have callable := replacement_callable kind _ target found
        rw [Option.getD_some]
        exact ⟨rfl, cuts, callable.1, opens, outside, call_here_other kind pre name _ _ callable here, first⟩
  · rw [if_neg renamed]
    exact same

theorem renamed_silent (kind : CallKind) (text : List Char) (silent : callsOf kind text = []) :
    renamedIn kind text = text := by
  rw [renamedIn, silent]
  rfl

theorem renamed_opens (kind : CallKind) (text : List Char) (opens : Opens (mask text)) :
    Opens (mask (renamedIn kind text)) := by
  rcases first_call text with silent | ⟨first_kind, before, name, tail, pre, called⟩
  · rw [renamed_silent kind text (silent kind)]
    exact opens
  · have swapped := first_call_swapped first_kind text before name tail pre called kind (renamed_opens kind tail called.opens)
    obtain ⟨first, letters, split, starts⟩ := first_call_name first_kind text before name tail pre called
    rw [first_call_mask first_kind text before name tail pre called, split] at opens
    rw [first_call_mask first_kind _ before _ _ pre swapped]
    exact opens_front pre _ _ first starts opens
termination_by text.length
decreasing_by exact first_call_shorter first_kind text before name tail pre called

theorem renamed_behind_blanks (kind : CallKind) (blanks text : List Char) (blank : ∀ c ∈ blanks, Text.isBlank c = true) :
    renamedIn kind (blanks ++ text) = blanks ++ renamedIn kind text := by
  rw [renamedIn, calls_behind_blanks kind blanks text blank, misnamed_moved]
  exact rename_sites_moved _ blanks text

theorem renamed_blank (kind : CallKind) (text : List Char) : Text.allBlank (renamedIn kind text) = Text.allBlank text := by
  rcases first_call text with silent | ⟨first_kind, before, name, tail, pre, called⟩
  · rw [renamed_silent kind text (silent kind)]
  · have inked (front behind : List Char) (other : List Char) (identifier : Text.isIdentifier other = true) :
        Text.allBlank (front ++ (other ++ behind)) = false := by
      obtain ⟨first, letters, rfl, starts, -⟩ := Text.identifier_cases other identifier
      simp [Text.allBlank, Text.word_not_blank first (Text.isWord_of_isNameStart starts)]
    have swapped := first_call_swapped first_kind text before name tail pre called kind (renamed_opens kind tail called.opens)
    rw [swapped.split, called.split, inked _ _ _ swapped.identifier, inked _ _ _ called.identifier]

-- To rename the methods and then the functions comes to the same as to rename all misnamed calls at once. Both ways treat
-- the first call alike, whatever its kind is, and go on in the same way behind it.
theorem renamed_both (text : List Char) : renamedIn .function (renamedIn .method text) = corrected text := by
  rcases first_call text with silent | ⟨kind, before, name, tail, pre, called⟩
  · rw [renamed_silent .method text (silent .method), renamed_silent .function text (silent .function), corrected, calls_kinds,
      silent, silent]
    exact (corrected_plain [] 0 text nofun).symm
  · have opens := renamed_opens .method tail called.opens
    have swapped := first_call_swapped kind text before name tail pre called .method opens
    rw [first_call_renamed kind _ before _ _ pre swapped .function, renamed_both tail,
      first_call_corrected kind text before name tail pre called]
    cases kind with
    | method => rfl
    | function => rfl
termination_by text.length
decreasing_by exact first_call_shorter kind text before name tail pre called

end PipelineLint.Repair
