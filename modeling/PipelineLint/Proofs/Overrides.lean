import PipelineLint.Proofs.SettingTypes

set_option autoImplicit false

namespace PipelineLint

namespace Settings

/-- A variable of the environment and the settings of one section that it overrides. -/
structure Override where
  name : String
  settings : List String
  /-- Whether the variable counts only if it is a switch word. -/
  isSwitch : Bool

def topOverrides : List Override := [
  ⟨"PIPECHECK_MAX_FIX_ITERATIONS", ["max_fix_iterations"], false⟩,
  ⟨"PIPECHECK_COMPATIBILITY_CHECKS", ["compatibility_checks"], true⟩,
  ⟨"PIPECHECK_WARNING_SEVERITY", ["warning_severity"], false⟩
]

def logOverrides : List Override := [
  ⟨"PIPECHECK_LOG_LEVEL", ["level"], false⟩,
  ⟨"PIPECHECK_LOG_FORMAT", ["format"], false⟩,
  ⟨"PIPECHECK_LOG_FILE", ["output_file"], false⟩,
  ⟨"PIPECHECK_LOG_COLOR", ["use_color"], true⟩
]

def serviceOverrides : List Override := [
  ⟨"PIPECHECK_EXTERNAL_URL", ["url", "enabled"], false⟩,
  ⟨"PIPECHECK_EXTERNAL_TIMEOUT", ["timeout"], false⟩
]

def Override.applies (env : Environment) (override : Override) : Bool :=
  match Environment.given? env override.name with
  | none => false
  | some text => !override.isSwitch || (Environment.readSwitch text).toOption.isSome

def overridden (env : Environment) (overrides : List Override) (key : Scalar) : Bool :=
  overrides.any fun override => override.applies env && override.settings.any fun name => decide (key = .str name)

def without (hides : Scalar → Bool) (table : Entries) : Entries :=
  table.filter fun entry => !hides entry.1

theorem field_without (hides : Scalar → Bool) (table : Entries) (name : String) (kept : hides (.str name) = false) :
    Entries.field? (without hides table) name = Entries.field? table name := by
  unfold Entries.field? Entries.get? without
  rw [List.find?_filter]
  congr 2
  funext entry
  cases same : entry.1.sameKey (.str name) with
  | false => simp
  | true => simp [(Scalar.sameKey_str_iff entry.1 name).mp same, kept]

section

variable (hides : Scalar → Bool) (first second : Entries) (alike : without hides first = without hides second)

include alike

theorem field_alike (name : String) (kept : hides (.str name) = false) :
    Entries.field? first name = Entries.field? second name := by
  rw [← field_without hides first name kept, alike, field_without hides second name kept]

theorem setting_alike (name : String) (absent : Value) (kept : hides (.str name) = false) :
    settingOr first name absent = settingOr second name absent := by
  rw [settingOr, field_alike hides first second alike name kept, settingOr]

theorem field_or_null_alike (name : String) (kept : hides (.str name) = false) :
    Entries.fieldOrNull first name = Entries.fieldOrNull second name := by
  rw [Entries.fieldOrNull, field_alike hides first second alike name kept, Entries.fieldOrNull]

end

theorem notices_without (hides : Scalar → Bool) (table : Entries) (known : ∀ key, hides key = true → isKnownKey key = true) :
    (Entries.keys (without hides table)).forM noticeKey = (Entries.keys table).forM noticeKey := by
  induction table with
  | nil => rfl
  | cons entry table ih =>
      change _ = (noticeKey entry.1 >>= fun _ => (Entries.keys table).forM noticeKey)
      cases hidden : hides entry.1 with
      | true =>
          have dropped : without hides (entry :: table) = without hides table := List.filter_cons_of_neg (by simp [hidden])
          have silent : noticeKey entry.1 = pure () := by rw [noticeKey, if_pos (known entry.1 hidden)]
          rw [dropped, silent, pure_bind, ih]
      | false =>
          have left : without hides (entry :: table) = entry :: without hides table := List.filter_cons_of_pos (by simp [hidden])
          rw [left, ← ih]
          rfl

def isSection (key : Scalar) : Bool :=
  decide (key = .str "logging") || decide (key = .str "external")

structure SectionsFormed (table : Entries) : Prop where
  log : ∃ entries, settingOr table "logging" (.map []) = .map entries
  service : ∃ entries, settingOr table "external" (.map []) = .map entries

-- Two tables that differ in settings alone that the environment overrides.
structure SameButOverridden (env : Environment) (first second : Entries) : Prop where
  top : without (fun key => overridden env topOverrides key || isSection key) first =
    without (fun key => overridden env topOverrides key || isSection key) second
  log : without (overridden env logOverrides) (sectionGiven first "logging") =
    without (overridden env logOverrides) (sectionGiven second "logging")
  service : without (overridden env serviceOverrides) (sectionGiven first "external") =
    without (overridden env serviceOverrides) (sectionGiven second "external")

structure TextsShown (table : Entries) : Prop where
  level : (settingOr (sectionGiven table "logging") "level" (.str "WARNING")).isShowable = true
  format : (settingOr (sectionGiven table "logging") "format" (.str "structured")).isShowable = true

theorem switch_applies (env : Environment) (name setting : String) (applies : Override.applies env ⟨name, [setting], true⟩ = true) :
    ∃ on, switchVariable? env name = pure (some on) := by
  unfold Override.applies at applies
  unfold switchVariable?
  cases given : Environment.given? env name with
  | none => simp [given] at applies
  | some text =>
      cases read : Environment.readSwitch text with
      | error fault => simp [given, read, Except.toOption] at applies
      | ok on => exact ⟨on, by simp [read]⟩

theorem switch_alike {α : Type} (env : Environment) (name setting : String) (first second : Value)
    (next : Value → Reading α) (free : Override.applies env ⟨name, [setting], true⟩ = false → first = second) :
    (switchVariable? env name >>= fun switched => next ((switched.map Value.bool).getD first)) =
      (switchVariable? env name >>= fun switched => next ((switched.map Value.bool).getD second)) := by
  cases applies : Override.applies env ⟨name, [setting], true⟩ with
  | false => rw [free applies]
  | true =>
      obtain ⟨on, read⟩ := switch_applies env name setting applies
      rw [read, pure_bind, pure_bind]
      rfl

section

variable (env : Environment) (first second : Entries)

theorem text_alike (name setting absent : String)
    (free : Override.applies env ⟨name, [setting], false⟩ = false →
      settingOr first setting (.str absent) = settingOr second setting (.str absent))
    (shown : (settingOr first setting (.str absent)).isShowable = true)
    (also : (settingOr second setting (.str absent)).isShowable = true) :
    textSetting env name first setting absent = textSetting env name second setting absent := by
  cases given : Environment.given? env name with
  | none => rw [textSetting, shownSetting, free (by simp [Override.applies, given]), textSetting, shownSetting]
  | some text => simp [textSetting, shownSetting, shown, also, given]

theorem passes_alike (same : SameButOverridden env first second) : readMaxPasses env first = readMaxPasses env second := by
  unfold readMaxPasses
  simp only
  cases given : Environment.given? env "PIPECHECK_MAX_FIX_ITERATIONS" with
  | some text => rfl
  | none =>
      simp only
      rw [setting_alike _ first second same.top]
      simp [overridden, topOverrides, Override.applies, given, isSection]

theorem compatibility_alike (same : SameButOverridden env first second) :
    readCompatibility env first = readCompatibility env second := by
  have next (table : Entries) : readCompatibility env table = (switchVariable? env "PIPECHECK_COMPATIBILITY_CHECKS" >>=
      fun switched => pure ((switched.map Value.bool).getD (settingOr table "compatibility_checks" (.bool true)))) := by
    unfold readCompatibility
    congr 1
    funext switched
    cases switched <;> rfl
  rw [next first, next second]
  refine switch_alike env _ "compatibility_checks" _ _ _ fun free => ?_
  rw [setting_alike _ first second same.top]
  simp [overridden, topOverrides, free, isSection]

theorem floor_alike (same : SameButOverridden env first second) : floorValue env first = floorValue env second := by
  unfold floorValue
  cases given : Environment.given? env "PIPECHECK_WARNING_SEVERITY" with
  | some text => rfl
  | none =>
      simp only
      rw [setting_alike _ first second same.top]
      simp [overridden, topOverrides, Override.applies, given, isSection]

theorem log_file_alike (same : SameButOverridden env first second) :
    logFile env (sectionGiven first "logging") = logFile env (sectionGiven second "logging") := by
  unfold logFile
  cases given : Environment.given? env "PIPECHECK_LOG_FILE" with
  | some path => rfl
  | none =>
      simp only
      rw [field_or_null_alike _ _ _ same.log]
      simp [overridden, logOverrides, Override.applies, given]

theorem log_alike (same : SameButOverridden env first second) (shown : TextsShown first) (also : TextsShown second) :
    readLog env (sectionGiven first "logging") = readLog env (sectionGiven second "logging") := by
  have level := text_alike env _ _ "PIPECHECK_LOG_LEVEL" "level" "WARNING"
    (fun free => setting_alike _ _ _ same.log _ _ (by simp [overridden, logOverrides, free])) shown.level also.level
  have format := text_alike env _ _ "PIPECHECK_LOG_FORMAT" "format" "structured"
    (fun free => setting_alike _ _ _ same.log _ _ (by simp [overridden, logOverrides, free])) shown.format also.format
  have stamp : settingOr (sectionGiven first "logging") "include_timestamp" (.bool true) =
      settingOr (sectionGiven second "logging") "include_timestamp" (.bool true) :=
    setting_alike _ _ _ same.log _ _ (by simp [overridden, logOverrides])
  unfold readLog
  rw [level, format, log_file_alike env first second same, stamp]
  refine bind_congr fun level => bind_congr fun format => ?_
  have color : Override.applies env ⟨"PIPECHECK_LOG_COLOR", ["use_color"], true⟩ = false →
      settingOr (sectionGiven first "logging") "use_color" (.bool true) =
        settingOr (sectionGiven second "logging") "use_color" (.bool true) :=
    fun free => setting_alike _ _ _ same.log _ _ (by simp [overridden, logOverrides, free])
  exact switch_alike env _ _ _ _ (fun useColor => makeLog (uppered level) (lowered format) _ useColor _) color

theorem timeout_alike (same : SameButOverridden env first second) :
    readTimeout env (sectionGiven first "external") = readTimeout env (sectionGiven second "external") := by
  unfold readTimeout
  simp only
  cases given : Environment.given? env "PIPECHECK_EXTERNAL_TIMEOUT" with
  | some text => rfl
  | none =>
      simp only
      rw [setting_alike _ _ _ same.service]
      simp [overridden, serviceOverrides, Override.applies, given]

theorem service_alike (same : SameButOverridden env first second) :
    readService env (sectionGiven first "external") = readService env (sectionGiven second "external") := by
  unfold readService
  rw [timeout_alike env first second same]
  cases given : Environment.given? env "PIPECHECK_EXTERNAL_URL" with
  | some url => rfl
  | none =>
      have free (name : String) (kept : name = "url" ∨ name = "enabled") : overridden env serviceOverrides (.str name) = false := by
        rcases kept with rfl | rfl <;> simp [overridden, serviceOverrides, Override.applies, given]
      rw [field_or_null_alike _ _ _ same.service "enabled" (free _ (.inr rfl)),
        field_or_null_alike _ _ _ same.service "url" (free _ (.inl rfl))]

theorem notices_alike (same : SameButOverridden env first second) :
    (Entries.keys first).forM noticeKey = (Entries.keys second).forM noticeKey := by
  have known : ∀ key, (overridden env topOverrides key || isSection key) = true → isKnownKey key = true := by
    intro key hidden
    simp only [overridden, topOverrides, List.any_cons, List.any_nil, Bool.or_false, isSection, Bool.or_eq_true, Bool.and_eq_true,
      decide_eq_true_eq] at hidden
    rcases hidden with (⟨-, rfl⟩ | ⟨-, rfl⟩ | ⟨-, rfl⟩) | rfl | rfl <;> decide
  rw [← notices_without _ first known, same.top, notices_without _ second known]

theorem section_formed (table : Entries) (name : String) (formed : ∃ entries, settingOr table name (.map []) = .map entries) :
    tableSection table name = pure (sectionGiven table name) := by
  obtain ⟨entries, found⟩ := formed
  simp only [tableSection, sectionGiven, found]
  rfl

theorem settings_alike (formed : SectionsFormed first) (also_formed : SectionsFormed second)
    (same : SameButOverridden env first second) (shown : TextsShown first) (also_shown : TextsShown second) :
    ofTable env first = ofTable env second := by
  have repairs : settingOr first "auto_fix" (.bool true) = settingOr second "auto_fix" (.bool true) :=
    setting_alike _ _ _ same.top _ _ (by simp [overridden, topOverrides, isSection])
  unfold ofTable
  rw [notices_alike env first second same, passes_alike env first second same, compatibility_alike env first second same,
    floor_alike env first second same, repairs]
  simp only [section_formed first _ formed.log, section_formed second _ also_formed.log,
    section_formed first _ formed.service, section_formed second _ also_formed.service, pure_bind,
    log_alike env first second same shown also_shown, service_alike env first second same]

end

theorem read_shown (env : Environment) (table : Entries) (settings : Settings) (read : (ofTable env table).outcome.1 = .ok settings) :
    TextsShown table := by
  rcases meets_outcome _ _ (table_runs env table) with ⟨found, -, -, follows⟩ | ⟨fault, failed, -⟩
  · exact ⟨follows.log.givenLevel, follows.log.givenFormat⟩
  · rw [read] at failed
    cases failed

theorem overridden_settings_masked (env : Environment) (first second : Entries) (formed : SectionsFormed first)
    (also_formed : SectionsFormed second) (same : SameButOverridden env first second) :
    (TextsShown first → TextsShown second → (ofTable env first).outcome = (ofTable env second).outcome) ∧
      ∀ settings, (ofTable env first).outcome.1 = .ok settings →
        ((ofTable env first).outcome = (ofTable env second).outcome ↔ TextsShown second) := by
  have masked : TextsShown first → TextsShown second → (ofTable env first).outcome = (ofTable env second).outcome :=
    fun shown also_shown => by rw [settings_alike env first second formed also_formed same shown also_shown]
  refine ⟨masked, fun settings read => ⟨fun alike => ?_, masked (read_shown env first settings read)⟩⟩
  rw [alike] at read
  exact read_shown env second settings read

-- A number of passes and a level that no settings may have, both overridden.
def refusedPasses : Entries :=
  [(.str "max_fix_iterations", .int 0), (.str "logging", .map [(.str "level", .str "loud"), (.str "format", .str "json")]),
    (.str "colour", .null)]

def plainFormat : Entries :=
  [(.str "colour", .null), (.str "logging", .map [(.str "format", .str "json")])]

def passesAndLevel : Environment :=
  [("PIPECHECK_MAX_FIX_ITERATIONS", "6"), ("PIPECHECK_LOG_LEVEL", "debug")]

theorem overridden_settings_masked_passes : SectionsFormed refusedPasses ∧ SectionsFormed plainFormat ∧
    SameButOverridden passesAndLevel refusedPasses plainFormat ∧
    (ofTable passesAndLevel refusedPasses).outcome = (ofTable passesAndLevel plainFormat).outcome := by
  have formed : SectionsFormed refusedPasses := ⟨⟨_, rfl⟩, ⟨_, rfl⟩⟩
  have also_formed : SectionsFormed plainFormat := ⟨⟨_, rfl⟩, ⟨_, rfl⟩⟩
  have same : SameButOverridden passesAndLevel refusedPasses plainFormat := ⟨rfl, rfl, rfl⟩
  exact ⟨formed, also_formed, same,
    (overridden_settings_masked passesAndLevel _ _ formed also_formed same).1 ⟨rfl, rfl⟩ ⟨rfl, rfl⟩⟩

def levelNumber (level : Nat) : Entries :=
  [(.str "logging", .map [(.str "level", .int level)])]

theorem long_level_not_masked : SectionsFormed [] ∧ SectionsFormed (levelNumber (Nat.pow 16 3600 - 1)) ∧
    SameButOverridden [("PIPECHECK_LOG_LEVEL", "debug")] [] (levelNumber (Nat.pow 16 3600 - 1)) ∧
    (∃ settings, (ofTable [("PIPECHECK_LOG_LEVEL", "debug")] []).outcome = (.ok settings, []) ∧ settings.log.level = "DEBUG") ∧
    ∀ settings, (ofTable [("PIPECHECK_LOG_LEVEL", "debug")] (levelNumber (Nat.pow 16 3600 - 1))).outcome.1 ≠ .ok settings := by
  have too_long : ¬Nat.pow 16 3600 - 1 < Nat.pow 10 Numeral.maxDigits := by decide +kernel
  generalize Nat.pow 16 3600 - 1 = level at too_long ⊢
  refine ⟨⟨⟨_, rfl⟩, ⟨_, rfl⟩⟩, ⟨⟨_, rfl⟩, ⟨_, rfl⟩⟩, ⟨rfl, rfl, rfl⟩, ⟨_, rfl, rfl⟩, fun settings read => ?_⟩
  have shown : (Value.int level).isShowable = true := (read_shown _ (levelNumber level) settings read).level
  simp only [Value.isShowable, Scalar.isShowable, Int.natAbs_natCast, decide_eq_true_eq] at shown
  exact too_long shown

end Settings

end PipelineLint
