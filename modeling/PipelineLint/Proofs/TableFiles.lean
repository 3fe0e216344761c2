import Mathlib
import PipelineLint.Proofs.Sessions
import PipelineLint.Proofs.SettingTypes

set_option autoImplicit false

namespace PipelineLint

namespace Settings

section

variable {α β : Type} (reading : Reading α) (next : α → Reading β) (notices later : List Notice)

theorem run_bind_ok (value : α) (ran : (ExceptT.run reading).run notices = (.ok value, later)) :
    (ExceptT.run (reading >>= next)).run notices = (ExceptT.run (next value)).run later := by
  simp only [ExceptT.run_bind, StateT.run_bind, ran]
  rfl

theorem run_bind_error (fault : Fault) (ran : (ExceptT.run reading).run notices = (.error fault, later)) :
    (ExceptT.run (reading >>= next)).run notices = (.error fault, later) := by
  simp only [ExceptT.run_bind, StateT.run_bind, ran]
  rfl

end

def Orderly {α : Type} : Except Fault α → Prop
  | .ok _ => True
  | .error fault => fault.Refused

theorem orderly_map {α β : Type} (f : α → β) (outcome : Except Fault α) : Orderly (outcome.map f) ↔ Orderly outcome := by
  cases outcome <;> rfl

-- The table of settings in what is given for the program. In a shared file anything empty counts as an empty table.
def ownEntries? (name : String) : Value → Option Entries
  | .map entries => some entries
  | value => if name = sharedFile && !value.isTruthy then some [] else none

def sectionOf? (name : String) (table : Entries) : Option Entries :=
  match settingOr table toolTable (.map []) with
  | .map tools =>
      match Entries.field? tools toolName with
      | none => some (if name = sharedFile then [] else table)
      | some value => ownEntries? name value
  | _ => none

theorem tools_table (table tools : Entries) (held : settingOr table toolTable (.map []) = .map tools) :
    toolSection? table = pure (Entries.field? tools toolName) := by
  rw [toolSection?, held]

theorem tools_no_table (table : Entries) (apart : ∀ tools, settingOr table toolTable (.map []) ≠ .map tools) :
    toolSection? table = throw .sectionNotTable := by
  rw [toolSection?]
  cases held : settingOr table toolTable (.map []) with
  | map tools => exact absurd held (apart tools)
  | scalar scalar => rfl
  | list items => rfl

theorem own_entries_apart (name : String) (value : Value) (no_table : ∀ entries, value ≠ .map entries) :
    ownEntries? name value = if name = sharedFile && !value.isTruthy then some [] else none := by
  cases value with
  | map entries => exact absurd rfl (no_table entries)
  | scalar scalar => rfl
  | list items => rfl

theorem own_entries_read (env : Environment) (name : String) (value : Value) (entries : Entries)
    (own : ownEntries? name value = some entries) :
    (if name = sharedFile && !value.isTruthy then ofTable env [] else ofSection env value) = ofTemplate env entries := by
  by_cases table : ∃ given, value = .map given
  · obtain ⟨given, rfl⟩ := table
    obtain rfl : given = entries := Option.some.inj own
    cases given with
    | nil =>
        rw [ofSection]
        exact ite_self _
    | cons entry given => simp [ofSection, Value.isTruthy]
  · rw [own_entries_apart name value (not_exists.mp table)] at own
    obtain ⟨empty, same⟩ := Option.ite_none_right_eq_some.mp own
    cases same
    exact if_pos empty

theorem section_read (env : Environment) (name : String) (table entries : Entries)
    (own : sectionOf? name table = some entries) : ofTables env name table = ofTemplate env entries := by
  cases held : settingOr table toolTable (.map []) with
  | scalar scalar => simp [sectionOf?, held] at own
  | list items => simp [sectionOf?, held] at own
  | map tools =>
      rw [ofTables, tools_table table tools held, pure_bind]
      cases found : Entries.field? tools toolName with
      | none =>
          have here : entries = if name = sharedFile then [] else table := by simpa [sectionOf?, held, found] using own.symm
          by_cases shared : name = sharedFile
          · simp only [here, shared, if_true]
            rfl
          · simp only [here, shared, if_false]
      | some value =>
          rw [sectionOf?, held] at own
          simp only [found] at own
          exact own_entries_read env name value entries own

def Breaks {α : Type} (reading : Reading α) : Prop :=
  Meets reading (fun _ => False) fun fault => ¬fault.Refused

theorem not_refused {fault : Fault} (other : ∀ subject cause, fault ≠ .refused subject cause) : ¬fault.Refused := by
  rintro ⟨subject, cause, same⟩
  exact other subject cause same

theorem items_break (items : List Value) : Breaks (noticeItems items >>= fun _ => throw .sectionNotTable : Reading Settings) := by
  refine meets_bind (fun _ => True) _ _ _ ?_ fun _ _ => meets_throw _ _ (not_refused nofun)
  induction items with
  | nil => exact meets_pure _ () trivial
  | cons item items ih =>
      refine meets_bind (fun _ => True) _ _ (fun _ => noticeItems items) ?_ fun _ _ => ih
      dsimp only
      split
      · rename_i key _
        refine meets_mono _ _ _ _ (key_runs key) (fun _ _ => trivial) ?_
        rintro fault ⟨flaw, found, same⟩ refused
        rw [refused_iff_flaw, same] at refused
        cases refused
        unfold flawUnless at found
        split at found <;> cases found
      · exact meets_throw _ _ (not_refused nofun)

theorem section_breaks (env : Environment) (value : Value) (no_table : ∀ entries, value ≠ .map entries) :
    Breaks (ofSection env value) := by
  unfold ofSection
  split
  · exact absurd rfl (no_table _)
  · exact items_break _
  · exact items_break _
  · exact meets_throw _ _ (not_refused nofun)

theorem own_entries_missed (env : Environment) (name : String) (value : Value) (none_own : ownEntries? name value = none) :
    Breaks (if name = sharedFile && !value.isTruthy then ofTable env [] else ofSection env value) := by
  have no_table (entries : Entries) : value ≠ .map entries := by
    rintro rfl
    cases none_own
  rw [own_entries_apart name value no_table] at none_own
  have given : ¬(name = sharedFile && !value.isTruthy) := by simpa using none_own
  rw [if_neg given]
  exact section_breaks env value no_table

theorem section_missed (env : Environment) (name : String) (table : Entries) (none_own : sectionOf? name table = none) :
    Breaks (ofTables env name table) := by
  by_cases held : ∃ tools, settingOr table toolTable (.map []) = .map tools
  · obtain ⟨tools, held⟩ := held
    rw [ofTables, tools_table table tools held, pure_bind]
    cases found : Entries.field? tools toolName with
    | none => simp [sectionOf?, held, found] at none_own
    | some value =>
        rw [sectionOf?, held] at none_own
        simp only [found] at none_own
        exact own_entries_missed env name value none_own
  · rw [ofTables, tools_no_table table (not_exists.mp held)]
    exact meets_bind (fun _ => False) _ _ _ (meets_throw _ _ (not_refused nofun)) nofun

theorem settings_orderly_iff (env : Environment) (entries : Entries) (notices : List Notice) :
    Orderly ((ExceptT.run (ofTemplate env entries)).run notices).1 ↔
      ∀ flaw ∈ firstFlaw (flaws env (Environment.substituteEntries env entries)), flaw = .refused := by
  have runs : Runs (ofTemplate env entries) _ _ := table_runs env (Environment.substituteEntries env entries)
  have here := runs notices
  generalize ((ExceptT.run (ofTemplate env entries)).run notices).1 = outcome at here ⊢
  cases outcome with
  | ok settings => exact iff_of_true trivial (by simp [here.1])
  | error fault =>
      obtain ⟨flaw, found, same⟩ := here
      rw [found, Orderly, refused_iff_flaw, same]
      simp

structure HoldsTable (found : Found) (table : Entries) : Prop where
  named : [".yaml", ".yml"].contains (Files.Path.suffixOf found.name) = false
  content : ∃ bytes text, found.node = .file bytes ∧ Text.Utf8.decode bytes = .ok text ∧ Toml.read text = .ok table

def mentions? (table : Entries) : Option Bool :=
  match settingOr table toolTable (.map []) with
  | .map tools => some (Entries.hasField tools toolName)
  | .str text => some (Text.occursIn toolName.toList text.toList)
  | .list items => some (items.any fun item => item.text? == some toolName)
  | _ => none

namespace World

-- The search for a shared file goes on behind a directory: there is none in it, or one that cannot be read or does not mention
-- the program.
def PassesOver (world : World) (directory : Files.Place) : Prop :=
  ∀ node, world.tree.node? (directory ++ [sharedFile]) = some node →
    ∃ bytes text, node = .file bytes ∧ Text.Utf8.decode bytes = .ok text ∧
      (Toml.read text = .error .malformed ∨ ∃ table, Toml.read text = .ok table ∧ mentions? table = some false)

def NamesNone (world : World) : Prop :=
  ∀ text, Environment.given? world.env settingsPathVariable = some text → world.find? (.ofText text) = none

/-- A load comes upon a file: at the path that it is given, at the one that the environment names, under the program's own name,
or as the first shared file, from the innermost directory up, that it does not pass over. -/
inductive ComesUpon (world : World) : Option String → Found → Prop where
  | given (text : String) (found : Found) : text ≠ "" → world.find? (.ofText text) = some found →
      ComesUpon world (some text) found
  | named (path : Option String) (text : String) (found : Found) : path.filter (· != "") = none →
      Environment.given? world.env settingsPathVariable = some text → world.find? (.ofText text) = some found →
      ComesUpon world path found
  | own (path : Option String) (found : Found) : path.filter (· != "") = none → world.NamesNone →
      world.find? (.ofText ownFile) = some found → ComesUpon world path found
  | shared (path : Option String) (inner outer : List Files.Place) (directory : Files.Place) (node : Files.Node) :
      path.filter (· != "") = none → world.NamesNone → world.find? (.ofText ownFile) = none →
      world.directoriesUp = inner ++ directory :: outer → (∀ closer ∈ inner, world.PassesOver closer) →
      world.tree.node? (directory ++ [sharedFile]) = some node → ¬world.PassesOver directory →
      ComesUpon world path ⟨fromRoot (directory ++ [sharedFile]), sharedFile, node⟩

theorem shares_read (bytes : Text.Utf8.Bytes) (text : List Char) (table : Entries) (decoded : Text.Utf8.decode bytes = .ok text)
    (read : Toml.read text = .ok table) :
    sharesSection bytes = match mentions? table with
      | some mentioned => pure mentioned
      | none => throw .sectionNotListable := by
  simp only [sharesSection, decodeFile, decoded, pure_bind, read, mentions?]
  cases settingOr table toolTable (.map []) with
  | scalar scalar => cases scalar <;> rfl
  | list items => rfl
  | map tools => rfl

theorem passed_over (world : World) (directory : Files.Place) (passes : world.PassesOver directory) :
    world.sharedIn? directory = pure none := by
  unfold sharedIn?
  simp only
  cases held : world.tree.node? (directory ++ [sharedFile]) with
  | none => rfl
  | some node =>
      obtain ⟨bytes, text, rfl, decoded, malformed | ⟨table, read, unmentioned⟩⟩ := passes node held
      · simp only [sharesSection, decodeFile, decoded, pure_bind, malformed]
        rfl
      · simp only [shares_read bytes text table decoded read, unmentioned]
        rfl

theorem search_on (world : World) (inner outer : List Files.Place) (passed : ∀ closer ∈ inner, world.PassesOver closer) :
    world.firstShared? (inner ++ outer) = world.firstShared? outer := by
  induction inner with
  | nil => rfl
  | cons directory inner ih =>
      obtain ⟨here, others⟩ := List.forall_mem_cons.mp passed
      rw [List.cons_append, firstShared?, passed_over world directory here, pure_bind]
      exact ih others

theorem locate_unnamed (world : World) (path : Option String) (no_path : path.filter (· != "") = none)
    (unnamed : world.NamesNone) (notices : List Notice) :
    ∃ later, (ExceptT.run (world.locate path)).run notices =
      (ExceptT.run (match world.find? (.ofText ownFile) with
        | some found => pure (some found)
        | none => world.firstShared? world.directoriesUp)).run later := by
  have nothing : ∃ later, (ExceptT.run world.findNamed?).run notices = (.ok none, later) := by
    unfold findNamed?
    cases given : Environment.given? world.env settingsPathVariable with
    | none => exact ⟨notices, rfl⟩
    | some text =>
        simp only [unnamed text given]
        exact ⟨_, rfl⟩
  obtain ⟨later, nothing⟩ := nothing
  refine ⟨later, ?_⟩
  unfold locate
  rw [no_path]
  exact run_bind_ok _ _ notices later none nothing

theorem unmentioned_apart (table : Entries) (name : String) (nowhere : mentions? table = none) :
    sectionOf? name table = none := by
  unfold mentions? at nowhere
  unfold sectionOf?
  split
  · rename_i tools held
    rw [held] at nowhere
    cases nowhere
  · rfl

theorem located (world : World) (path : Option String) (found : Found) (table : Entries) (comes : world.ComesUpon path found)
    (holds : HoldsTable found table) (notices : List Notice) :
    (∃ later, (ExceptT.run (world.locate path)).run notices = (.ok (some found), later)) ∨
      (sectionOf? found.name table = none ∧
        ∃ fault later, (ExceptT.run (world.locate path)).run notices = (.error fault, later) ∧ ¬fault.Refused) := by
  cases comes with
  | given text _ some_text there =>
      have filtered : (some text).filter (· != "") = some text := by simp [some_text]
      refine .inl ⟨notices, ?_⟩
      unfold locate
      rw [filtered]
      simp only [require, there]
      rfl
  | named _ text _ no_path given there =>
      refine .inl ⟨notices, ?_⟩
      unfold locate
      rw [no_path]
      simp only [findNamed?, given, there]
      rfl
  | own _ _ no_path unnamed there =>
      obtain ⟨later, same⟩ := locate_unnamed world path no_path unnamed notices
      exact .inl ⟨later, by rw [same, there]; rfl⟩
  | shared _ inner outer directory node no_path unnamed no_own up passed there stops =>
      obtain ⟨later, same⟩ := locate_unnamed world path no_path unnamed notices
      obtain ⟨bytes, text, rfl, decoded, read⟩ := holds.content
      rw [same, no_own, up]
      simp only [search_on world inner (directory :: outer) passed, firstShared?, sharedIn?, there,
        shares_read bytes text table decoded read]
      cases mentioned : mentions? table with
      | none => exact .inr ⟨unmentioned_apart table _ mentioned, .sectionNotListable, later, rfl, not_refused nofun⟩
      | some here =>
          cases here with
          | true => exact .inl ⟨later, rfl⟩
          | false =>
              refine absurd (fun other held => ?_) stops
              rw [there] at held
              cases held
              exact ⟨bytes, text, rfl, decoded, .inr ⟨table, read, mentioned⟩⟩

theorem read_table (world : World) (found : Found) (table : Entries) (holds : HoldsTable found table) :
    world.read found = ofTables world.env found.name table := by
  obtain ⟨bytes, text, node, decoded, read⟩ := holds.content
  simp only [World.read, node, ofFile, holds.named, ofTableFile, decodeFile, decoded, pure_bind, read]
  rfl

end World

theorem load_found (session : Session) (path : Option String) (found : Found) (later : List Notice)
    (located : (ExceptT.run (session.world.locate path)).run [] = (.ok (some found), later))
    (unheld : session.held.get? found.key = none) :
    (session.load path).outcome.1 =
      ((ExceptT.run (session.world.read found)).run later).1.map
        fun settings => (settings, session.held.use found.key settings) := by
  unfold Reading.outcome Session.load
  rw [run_bind_ok _ _ [] later (some found) located]
  simp only [Session.readHeld, unheld]
  cases read : (ExceptT.run (session.world.read found)).run later with
  | mk outcome seen =>
      cases outcome with
      | ok settings =>
          rw [run_bind_ok _ _ later seen settings read]
          rfl
      | error fault =>
          rw [run_bind_error _ _ later seen fault read]
          rfl

theorem load_misses (session : Session) (path : Option String) (found : Found) (table : Entries)
    (comes : session.world.ComesUpon path found) (holds : HoldsTable found table)
    (unheld : session.held.get? found.key = none) (none_own : sectionOf? found.name table = none) :
    ¬Orderly (session.load path).outcome.1 := by
  rcases session.world.located path found table comes holds [] with ⟨later, located⟩ | ⟨-, fault, later, stopped, other⟩
  · rw [load_found session path found later located unheld, session.world.read_table found table holds, orderly_map]
    have breaks := section_missed session.world.env found.name table none_own later
    generalize ((ExceptT.run (ofTables session.world.env found.name table)).run later).1 = outcome at breaks ⊢
    cases outcome with
    | ok settings => exact breaks.elim
    | error fault => exact breaks
  · have failed : (session.load path).outcome.1 = .error fault := by
      unfold Reading.outcome Session.load
      rw [run_bind_error _ _ [] later fault stopped]
    rw [failed]
    exact other

theorem table_load_orderly_iff (session : Session) (path : Option String) (found : Found) (table : Entries)
    (comes : session.world.ComesUpon path found) (holds : HoldsTable found table)
    (unheld : session.held.get? found.key = none) :
    Orderly (session.load path).outcome.1 ↔ ∃ entries, sectionOf? found.name table = some entries ∧
      ∀ flaw ∈ firstFlaw (flaws session.world.env (Environment.substituteEntries session.world.env entries)), flaw = .refused := by
  cases own : sectionOf? found.name table with
  | none => exact iff_of_false (load_misses session path found table comes holds unheld own) (by rintro ⟨entries, ⟨⟩, -⟩)
  | some entries =>
      rcases session.world.located path found table comes holds [] with ⟨later, located⟩ | ⟨none_own, -⟩
      · rw [load_found session path found later located unheld, session.world.read_table found table holds, orderly_map,
          section_read session.world.env found.name table entries own, settings_orderly_iff]
        exact ⟨fun ends => ⟨entries, rfl, ends⟩, fun ⟨_, same, ends⟩ => Option.some.inj same ▸ ends⟩
      · rw [own] at none_own
        cases none_own

def emptySectionText : List Char := "[tool]\npipecheck = []\n".toList

def emptySectionAbove : Session :=
  { world :=
      { tree :=
          { files := [([sharedFile], Text.Utf8.encode emptySectionText),
              (["a", sharedFile], Text.Utf8.encode "tool = \"other\"\n".toList)]
            directories := [["a"]] }
        directory := ["a"] } }

def emptySection : Found :=
  ⟨World.fromRoot [sharedFile], sharedFile, .file (Text.Utf8.encode emptySectionText)⟩

theorem table_load_orderly_iff_empty_section :
    emptySectionAbove.world.ComesUpon none emptySection ∧
      HoldsTable emptySection [(.str "tool", .map [(.str "pipecheck", .list [])])] ∧
      emptySectionAbove.held.get? emptySection.key = none ∧ Orderly (emptySectionAbove.load none).outcome.1 := by
  have inner : Toml.read "tool = \"other\"\n".toList = .ok [(.str "tool", .str "other")] := by cbv
  have outer : Toml.read emptySectionText = .ok [(.str "tool", .map [(.str "pipecheck", .list [])])] := by cbv
  have decoded : Text.Utf8.decode (Text.Utf8.encode emptySectionText) = .ok emptySectionText := by cbv
  have passed : emptySectionAbove.world.PassesOver ["a"] := by
    rintro node ⟨⟩
    exact ⟨_, _, rfl, by cbv, .inr ⟨_, inner, by decide⟩⟩
  have stops : ¬emptySectionAbove.world.PassesOver [] := by
    intro passes
    obtain ⟨bytes, text, ⟨⟩, same, read⟩ := passes _ rfl
    obtain rfl := Except.ok.inj (decoded.symm.trans same)
    rw [outer] at read
    rcases read with malformed | ⟨table, ⟨⟩, unmentioned⟩
    · cases malformed
    · exact absurd unmentioned (by decide)
  have unnamed : emptySectionAbove.world.NamesNone := by
    rintro text ⟨⟩
  have comes : emptySectionAbove.world.ComesUpon none emptySection :=
    .shared none [["a"]] [] [] _ rfl unnamed rfl rfl (by simpa using passed) rfl stops
  have holds : HoldsTable emptySection [(.str "tool", .map [(.str "pipecheck", .list [])])] :=
    ⟨by decide, _, _, rfl, decoded, outer⟩
  exact ⟨comes, holds, rfl, (table_load_orderly_iff emptySectionAbove none emptySection _ comes holds rfl).mpr
    ⟨[], rfl, by rintro flaw ⟨⟩⟩⟩

def toolsAsNumber : Session :=
  { world := { tree := { files := [([ownFile], Text.Utf8.encode "tool = 5\n".toList)] } } }

def ownNumber : Found :=
  ⟨World.fromRoot [ownFile], ownFile, .file (Text.Utf8.encode "tool = 5\n".toList)⟩

theorem tools_as_number_break :
    ∃ found table, toolsAsNumber.world.ComesUpon (some ownFile) found ∧ HoldsTable found table ∧
      toolsAsNumber.held.get? found.key = none ∧ ¬Orderly (toolsAsNumber.load (some ownFile)).outcome.1 := by
  have comes : toolsAsNumber.world.ComesUpon (some ownFile) ownNumber := .given ownFile ownNumber (by decide) rfl
  have read : Toml.read "tool = 5\n".toList = .ok [(.str "tool", .int 5)] := by cbv
  have holds : HoldsTable ownNumber [(.str "tool", .int 5)] := ⟨by decide, _, _, rfl, by cbv, read⟩
  exact ⟨_, _, comes, holds, rfl, load_misses _ _ _ _ comes holds rfl rfl⟩

end Settings

end PipelineLint
