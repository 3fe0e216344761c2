import PipelineLint.Settings.Table

set_option autoImplicit false

namespace PipelineLint

namespace Settings

/-! ## Readings step by step -/

def Meets {α : Type} (reading : Reading α) (accepts : α → Prop) (fails : Fault → Prop) : Prop :=
  ∀ notices, match ((ExceptT.run reading).run notices).1 with
    | .ok value => accepts value
    | .error fault => fails fault

def Fault.Refused (fault : Fault) : Prop :=
  ∃ subject cause, fault = .refused subject cause

section

variable {α β : Type} {fails : Fault → Prop}

theorem meets_pure (accepts : α → Prop) (value : α) (accepted : accepts value) :
    Meets (pure value) accepts fails :=
  fun _ => accepted

theorem meets_throw (accepts : α → Prop) (fault : Fault) (failed : fails fault) :
    Meets (throw fault : Reading α) accepts fails :=
  fun _ => failed

theorem meets_bind (accepts : α → Prop) (also : β → Prop) (reading : Reading α) (next : α → Reading β)
    (first : Meets reading accepts fails) (onward : ∀ value, accepts value → Meets (next value) also fails) :
    Meets (reading >>= next) also fails := by
  intro notices
  have here := first notices
  simp only [ExceptT.run_bind, StateT.run_bind]
  cases given : (ExceptT.run reading).run notices with
  | mk result later =>
      rw [given] at here
      cases result with
      | error fault => exact here
      | ok value => exact onward value here later

theorem meets_mono (accepts also : α → Prop) (others : Fault → Prop) (reading : Reading α) (meets : Meets reading accepts fails)
    (weaker : ∀ value, accepts value → also value) (failing : ∀ fault, fails fault → others fault) :
    Meets reading also others := by
  intro notices
  have here := meets notices
  cases given : ((ExceptT.run reading).run notices).1 with
  | ok value =>
      rw [given] at here
      exact weaker value here
  | error fault =>
      rw [given] at here
      exact failing fault here

theorem meets_outcome (accepts : α → Prop) (reading : Reading α) (meets : Meets reading accepts fails) :
    (∃ value, reading.outcome.1 = .ok value ∧ accepts value) ∨ ∃ fault, reading.outcome.1 = .error fault ∧ fails fault := by
  have here := meets []
  unfold Reading.outcome
  cases given : (ExceptT.run reading).run [] with
  | mk result later =>
      rw [given] at here
      cases result with
      | ok value => exact .inl ⟨value, rfl, here⟩
      | error fault => exact .inr ⟨fault, rfl, here⟩

end

/-! ## What is given -/

/-- What is given for the settings before anything is checked: by a variable of the environment, else in the
table, else by default. The level and the format are those of the table in any case. -/
structure Given where
  keys : List Scalar
  level : Value
  format : Value
  outputFile : Value
  useColor : Value
  includeTimestamp : Value
  maxPasses : Value
  repairs : Value
  compatibility : Value
  floor : Value
  enabled : Value
  url : Value
  timeout : Value

def switchGiven (env : Environment) (name : String) (otherwise : Value) : Value :=
  match (Environment.given? env name).bind fun text => (Environment.readSwitch text).toOption with
  | some on => .bool on
  | none => otherwise

def spelledGiven (env : Environment) (name : String) (spelled? : String → Option Value) (otherwise : Value) : Value :=
  match Environment.given? env name with
  | some text => (spelled? text).getD .null
  | none => otherwise

def sectionGiven (table : Entries) (name : String) : Entries :=
  (settingOr table name (.map [])).entriesOrEmpty

-- What is wrong with what is given for a setting: it is refused, it is too long to be shown where it has to be, or it is an
-- integer beyond all floating-point numbers.
inductive Flaw where
  | refused
  | unshowable
  | beyond
deriving DecidableEq

def flawUnless (fine : Bool) (flaw : Flaw) : Option Flaw :=
  if fine then none else some flaw

def wrongUnless (fine : Bool) (value : Value) : Option Flaw :=
  flawUnless fine (if value.isShowable then .refused else .unshowable)

def isSwitch : Value → Bool
  | .bool _ => true
  | _ => false

def isTable : Value → Bool
  | .map _ => true
  | _ => false

def spells (env : Environment) (name : String) (spelled? : String → Option Value) : Bool :=
  (Environment.given? env name).all fun text => (spelled? text).isSome

def integerSpelled? (text : String) : Option Value :=
  (Numeral.settingInteger? text.toList).map .int

def numberSpelled? (text : String) : Option Value :=
  (Numeral.settingFloat? text.toList).map .float

def given (env : Environment) (table : Entries) : Given :=
  let log := sectionGiven table "logging"
  let service := sectionGiven table "external"
  { keys := Entries.keys table
    level := settingOr log "level" (.str "WARNING")
    format := settingOr log "format" (.str "structured")
    outputFile := spelledGiven env "PIPECHECK_LOG_FILE" (some <| .str ·) (Entries.fieldOrNull log "output_file")
    useColor := switchGiven env "PIPECHECK_LOG_COLOR" (settingOr log "use_color" (.bool true))
    includeTimestamp := settingOr log "include_timestamp" (.bool true)
    maxPasses := spelledGiven env "PIPECHECK_MAX_FIX_ITERATIONS" integerSpelled? (settingOr table "max_fix_iterations" (.int 10))
    repairs := settingOr table "auto_fix" (.bool true)
    compatibility := switchGiven env "PIPECHECK_COMPATIBILITY_CHECKS" (settingOr table "compatibility_checks" (.bool true))
    floor := floorValue env table
    enabled := spelledGiven env "PIPECHECK_EXTERNAL_URL" (fun _ => some (.bool true)) (settingOr service "enabled" (.bool false))
    url := spelledGiven env "PIPECHECK_EXTERNAL_URL" (some <| .str ·) (Entries.fieldOrNull service "url")
    timeout := spelledGiven env "PIPECHECK_EXTERNAL_TIMEOUT" numberSpelled? (settingOr service "timeout" defaultTimeout) }

/-! ## Flaws, in the order of the checks -/

def keyFlaws (given : Given) : List (Option Flaw) :=
  given.keys.map fun key => flawUnless key.isShowable .unshowable

def logFlaws (env : Environment) (given : Given) : List (Option Flaw) :=
  let level := (Environment.given? env "PIPECHECK_LOG_LEVEL").getD given.level.display
  let format := (Environment.given? env "PIPECHECK_LOG_FORMAT").getD given.format.display
  [flawUnless given.level.isShowable .unshowable, flawUnless given.format.isShowable .unshowable,
    flawUnless (logLevels.contains (uppered level)) .refused, flawUnless (logFormats.contains (lowered format)) .refused]

def seconds? : Value → Option Binary64
  | .float x => some x
  | .int i => Binary64.ofInt? i
  | _ => none

def timeoutFlaw : Value → Option Flaw
  | .float _ => none
  | .int i => flawUnless (Binary64.ofInt? i).isSome .beyond
  | other => wrongUnless false other

def serviceFlaws (env : Environment) (given : Given) : List (Option Flaw) :=
  [flawUnless (spells env "PIPECHECK_EXTERNAL_TIMEOUT" numberSpelled?) .refused, timeoutFlaw given.timeout,
    flawUnless (!given.enabled.isTruthy || given.url.isTruthy) .refused,
    flawUnless ((seconds? given.timeout).all Binary64.isPositiveOrNan) .refused]

def flaws (env : Environment) (table : Entries) : List (Option Flaw) :=
  let given := given env table
  keyFlaws given ++ (flawUnless (spells env "PIPECHECK_MAX_FIX_ITERATIONS" integerSpelled?) .refused ::
    wrongUnless (isSwitch given.repairs) given.repairs :: wrongUnless (isSwitch given.compatibility) given.compatibility ::
    flawUnless (isTable (settingOr table "logging" (.map []))) .refused :: (logFlaws env given ++
    (flawUnless (isTable (settingOr table "external" (.map []))) .refused :: (serviceFlaws env given ++
    [wrongUnless given.maxPasses.isPositiveInteger given.maxPasses, wrongUnless (severity? given.floor).isSome given.floor]))))

def firstFlaw (flaws : List (Option Flaw)) : Option Flaw :=
  flaws.findSome? id

def Fault.flaw? : Fault → Option Flaw
  | .refused _ _ => some .refused
  | .integerTooLong => some .unshowable
  | .timeoutTooLarge => some .beyond
  | _ => none

theorem refused_iff_flaw (fault : Fault) : fault.Refused ↔ fault.flaw? = some .refused := by
  cases fault <;> simp [Fault.Refused, Fault.flaw?]

def Runs {α : Type} (reading : Reading α) (flaws : List (Option Flaw)) (accepts : α → Prop) : Prop :=
  Meets reading (fun value => firstFlaw flaws = none ∧ accepts value)
    fun fault => ∃ flaw, firstFlaw flaws = some flaw ∧ fault.flaw? = some flaw

section

variable {α β : Type}

theorem runs_pure (accepts : α → Prop) (value : α) (accepted : accepts value) : Runs (pure value) [] accepts :=
  meets_pure _ _ ⟨rfl, accepted⟩

theorem runs_fine (accepts : α → Prop) (value : α) (fine : Bool) (flaw : Flaw) (fits : fine = true) (accepted : accepts value) :
    Runs (pure value) [flawUnless fine flaw] accepts :=
  meets_pure _ _ ⟨by rw [fits]; rfl, accepted⟩

theorem runs_stop (accepts : α → Prop) (fault : Fault) (flaw : Flaw) (same : fault.flaw? = some flaw) :
    Runs (throw fault) [some flaw] accepts :=
  meets_throw _ _ ⟨flaw, rfl, same⟩

theorem runs_refuse (accepts : α → Prop) (subject : String) (cause : Cause) (shown : cause.isShowable = true) :
    Runs (Reading.refuse subject cause) [some .refused] accepts := by
  refine runs_stop accepts _ _ ?_
  rw [Fault.ofCause, if_pos shown]
  rfl

theorem runs_wrong (accepts : α → Prop) (subject : String) (cause : Cause) (value : Value) (same : cause.isShowable = value.isShowable) :
    Runs (Reading.refuse subject cause) [wrongUnless false value] accepts := by
  refine runs_stop accepts _ _ ?_
  rw [Fault.ofCause, same]
  cases value.isShowable <;> rfl

theorem runs_bind (reading : Reading α) (next : α → Reading β) (flaws others : List (Option Flaw)) (accepts : α → Prop)
    (also : β → Prop) (first : Runs reading flaws accepts) (onward : ∀ value, accepts value → Runs (next value) others also) :
    Runs (reading >>= next) (flaws ++ others) also := by
  intro notices
  have here := first notices
  simp only [ExceptT.run_bind, StateT.run_bind, firstFlaw, List.findSome?_append]
  cases read : (ExceptT.run reading).run notices with
  | mk result later =>
      rw [read] at here
      cases result with
      | error fault =>
          obtain ⟨flaw, found, same⟩ := here
          rw [firstFlaw] at found
          exact ⟨flaw, by rw [found]; rfl, same⟩
      | ok value =>
          obtain ⟨clean, accepted⟩ := here
          rw [firstFlaw] at clean
          rw [clean]
          exact onward value accepted later

theorem runs_then (reading : Reading α) (next : α → Reading β) (flaw : Option Flaw) (others : List (Option Flaw))
    (accepts : α → Prop) (also : β → Prop) (first : Runs reading [flaw] accepts)
    (onward : ∀ value, accepts value → Runs (next value) others also) : Runs (reading >>= next) (flaw :: others) also :=
  runs_bind reading next [flaw] others accepts also first onward

theorem runs_on (reading : Reading α) (next : α → Reading β) (flaws : List (Option Flaw)) (accepts : α → Prop) (also : β → Prop)
    (first : Runs reading [] accepts) (onward : ∀ value, accepts value → Runs (next value) flaws also) :
    Runs (reading >>= next) flaws also :=
  runs_bind reading next [] flaws accepts also first onward

theorem runs_first (reading : Reading α) (flaw : Flaw) (others : List (Option Flaw)) (accepts : α → Prop)
    (stops : Runs reading [some flaw] accepts) : Runs reading (some flaw :: others) accepts :=
  stops

theorem runs_notice (notice : Notice) : Runs (Reading.notice notice) [] fun _ => True :=
  fun _ => ⟨rfl, trivial⟩

theorem runs_mono (accepts also : α → Prop) (reading : Reading α) (flaws : List (Option Flaw)) (runs : Runs reading flaws accepts)
    (weaker : ∀ value, accepts value → also value) : Runs reading flaws also :=
  meets_mono _ _ _ _ runs (fun value held => ⟨held.1, weaker value held.2⟩) fun _ => id

theorem runs_for (items : List α) (flaw : α → Option Flaw) (accepts : α → Prop) (step : α → Reading Unit)
    (each : ∀ item ∈ items, Runs (step item) [flaw item] fun _ => accepts item) :
    Runs (items.forM step) (items.map flaw) fun _ => ∀ item ∈ items, accepts item := by
  induction items with
  | nil => exact runs_pure _ () (by simp)
  | cons item items ih =>
      obtain ⟨here, others⟩ := List.forall_mem_cons.mp each
      change Runs (step item >>= fun _ => items.forM step) _ _
      refine runs_then _ _ _ _ _ _ here fun _ accepted => ?_
      exact runs_mono _ _ _ _ (ih others) fun _ rest => List.forall_mem_cons.mpr ⟨accepted, rest⟩

end

/-! ## What is checked -/

structure LogFollows (given : Given) (log : LogSettings) : Prop where
  givenLevel : given.level.isShowable = true
  givenFormat : given.format.isShowable = true
  level : log.level ∈ logLevels
  format : log.format ∈ logFormats
  outputFile : log.outputFile = given.outputFile
  useColor : log.useColor = given.useColor
  includeTimestamp : log.includeTimestamp = given.includeTimestamp

structure ServiceFollows (given : Given) (service : ServiceSettings) : Prop where
  enabled : service.enabled = given.enabled.isTruthy
  url : service.url = given.url
  reachable : service.enabled = true → service.url.isTruthy = true
  timeout : ∃ x, service.timeout = .float x ∧ x.isPositiveOrNan = true ∧ seconds? given.timeout = some x

-- How settings follow from what is given: what the checks make sure of.
structure Follows (given : Given) (settings : Settings) : Prop where
  keys : ∀ key ∈ given.keys, key.isShowable = true
  log : LogFollows given settings.log
  maxPasses : settings.maxPasses = given.maxPasses
  positive : settings.maxPasses.isPositiveInteger = true
  repairs : given.repairs = .bool settings.repairs
  compatibility : given.compatibility = .bool settings.compatibility
  floor : severity? given.floor = some settings.floor
  service : ServiceFollows given settings.service

section

variable (env : Environment) (table : Entries)

theorem switch_runs (name : String) (otherwise : Value) :
    Runs (switchVariable? env name) [] fun found => (found.map Value.bool).getD otherwise = switchGiven env name otherwise := by
  unfold switchVariable? switchGiven
  cases Environment.given? env name with
  | none => exact runs_pure _ _ rfl
  | some text =>
      simp only [Option.bind_some]
      cases Environment.readSwitch text with
      | ok on => exact runs_pure _ _ rfl
      | error fault => exact runs_on _ _ _ _ _ (runs_notice _) fun _ _ => runs_pure _ _ rfl

theorem key_runs (key : Scalar) : Runs (noticeKey key) [flawUnless key.isShowable .unshowable] fun _ => key.isShowable = true := by
  unfold noticeKey
  split
  · rename_i known
    have shown : key.isShowable = true := by
      unfold isKnownKey at known
      split at known
      · rfl
      · cases known
    exact runs_fine _ _ _ _ shown shown
  · cases shown : key.isShowable with
    | true => exact runs_mono _ _ _ _ (runs_notice _) fun _ _ => rfl
    | false => exact runs_stop _ _ _ rfl

theorem bool_runs (name : String) (value : Value) :
    Runs (requireBool name value) [wrongUnless (isSwitch value) value] fun on => value = .bool on := by
  unfold requireBool
  split
  · exact runs_pure _ _ rfl
  · rename_i no_switch
    have other : isSwitch value = false := by
      unfold isSwitch
      split
      · exact absurd rfl (no_switch _)
      · rfl
    rw [other]
    exact runs_wrong _ _ _ value rfl

theorem section_runs (name : String) : Runs (tableSection table name) [flawUnless (isTable (settingOr table name (.map []))) .refused]
    fun entries => entries = sectionGiven table name := by
  unfold tableSection sectionGiven
  split
  · rename_i entries found
    rw [found]
    exact runs_fine _ _ _ _ rfl rfl
  · rename_i no_table
    have other : isTable (settingOr table name (.map [])) = false := by
      unfold isTable
      split
      · rename_i found
        exact absurd found (no_table _)
      · rfl
    rw [other]
    exact runs_refuse _ _ _ rfl

theorem passes_run : Runs (readMaxPasses env table) [flawUnless (spells env "PIPECHECK_MAX_FIX_ITERATIONS" integerSpelled?) .refused]
    fun passes => passes = (given env table).maxPasses := by
  unfold readMaxPasses given spelledGiven spells integerSpelled?
  simp only
  cases Environment.given? env "PIPECHECK_MAX_FIX_ITERATIONS" with
  | none => exact runs_pure _ _ rfl
  | some text =>
      simp only [Option.all_some]
      cases Numeral.settingInteger? text.toList with
      | none => exact runs_refuse _ _ _ rfl
      | some i => exact runs_pure _ _ rfl

theorem compatibility_runs : Runs (readCompatibility env table) [] fun value => value = (given env table).compatibility := by
  unfold readCompatibility
  refine runs_on _ _ _ _ _ (switch_runs env _ (settingOr table "compatibility_checks" (.bool true))) fun found same => ?_
  cases found with
  | none => exact runs_pure _ _ same
  | some on => exact runs_pure _ _ same

theorem text_runs (override name absent : String) (entries : Entries) :
    Runs (textSetting env override entries name absent) [flawUnless (settingOr entries name (.str absent)).isShowable .unshowable]
      fun text => (settingOr entries name (.str absent)).isShowable = true ∧
        text = (Environment.given? env override).getD (settingOr entries name (.str absent)).display := by
  refine runs_then _ _ _ [] (fun shown => (settingOr entries name (.str absent)).isShowable = true ∧
    shown = (settingOr entries name (.str absent)).display) _ ?_ fun shown held => runs_pure _ _ ⟨held.1, by rw [held.2]⟩
  unfold shownSetting
  simp only
  split
  · rename_i shown
    exact runs_fine _ _ _ _ shown ⟨shown, rfl⟩
  · rename_i unshown
    rw [Bool.eq_false_iff.mpr unshown]
    exact runs_stop _ _ _ rfl

theorem log_runs : Runs (readLog env (sectionGiven table "logging")) (logFlaws env (given env table))
    (LogFollows (given env table)) := by
  unfold readLog logFlaws
  refine runs_then _ _ _ _ _ _ (text_runs env _ "level" "WARNING" _) fun level given_level => ?_
  refine runs_then _ _ _ _ _ _ (text_runs env _ "format" "structured" _) fun format given_format => ?_
  refine runs_on _ _ _ _ _ (switch_runs env _ (settingOr (sectionGiven table "logging") "use_color" (.bool true))) fun switched same => ?_
  obtain ⟨level_shown, rfl⟩ := given_level
  obtain ⟨format_shown, rfl⟩ := given_format
  have level_of : (given env table).level = settingOr (sectionGiven table "logging") "level" (.str "WARNING") := rfl
  have format_of : (given env table).format = settingOr (sectionGiven table "logging") "format" (.str "structured") := rfl
  simp only [level_of, format_of]
  generalize uppered ((Environment.given? env "PIPECHECK_LOG_LEVEL").getD _) = level
  generalize lowered ((Environment.given? env "PIPECHECK_LOG_FORMAT").getD _) = format
  unfold makeLog
  cases level_known : logLevels.contains level with
  | false => exact runs_first _ _ _ _ (runs_refuse _ _ _ rfl)
  | true =>
      cases format_known : logFormats.contains format with
      | false => exact runs_refuse _ _ _ rfl
      | true =>
          simp only [List.contains_eq_mem, decide_eq_true_eq] at level_known format_known
          refine runs_pure _ _ ⟨level_shown, format_shown, level_known, format_known, ?_, same, rfl⟩
          unfold given spelledGiven logFile
          cases Environment.given? env "PIPECHECK_LOG_FILE" <;> rfl

theorem timeout_runs : Runs (readTimeout env (sectionGiven table "external"))
    [flawUnless (spells env "PIPECHECK_EXTERNAL_TIMEOUT" numberSpelled?) .refused]
    fun value => value = (given env table).timeout := by
  unfold readTimeout given spelledGiven spells numberSpelled?
  simp only
  cases Environment.given? env "PIPECHECK_EXTERNAL_TIMEOUT" with
  | none => exact runs_pure _ _ rfl
  | some text =>
      simp only [Option.all_some]
      cases Numeral.settingFloat? text.toList with
      | none => exact runs_refuse _ _ _ rfl
      | some x => exact runs_pure _ _ rfl

theorem number_runs (value : Value) : Runs (requireTimeout value) [timeoutFlaw value]
    fun timeout => ∃ x, timeout = .float x ∧ seconds? value = some x := by
  cases value with
  | scalar s =>
      cases s with
      | float x => exact runs_pure _ _ ⟨x, rfl, rfl⟩
      | int i =>
          unfold requireTimeout timeoutFlaw seconds?
          simp only
          cases Binary64.ofInt? i with
          | some x => exact runs_pure _ _ ⟨x, rfl, rfl⟩
          | none => exact runs_stop _ _ _ rfl
      | _ => exact runs_wrong _ _ _ _ rfl
  | list items => exact runs_wrong _ _ _ _ rfl
  | map entries => exact runs_wrong _ _ _ _ rfl

theorem service_runs : Runs (readService env (sectionGiven table "external")) (serviceFlaws env (given env table))
    (ServiceFollows (given env table)) := by
  unfold readService serviceFlaws
  refine runs_then _ _ _ _ _ _ (timeout_runs env table) fun value same => ?_
  subst same
  refine runs_then _ _ _ _ _ _ (number_runs _) fun timeout number => ?_
  obtain ⟨x, rfl, seconds⟩ := number
  have enabled : ((Environment.given? env "PIPECHECK_EXTERNAL_URL").isSome ||
      (Entries.fieldOrNull (sectionGiven table "external") "enabled").isTruthy) = (given env table).enabled.isTruthy := by
    have here : (given env table).enabled = spelledGiven env "PIPECHECK_EXTERNAL_URL" (fun _ => some (.bool true))
      (settingOr (sectionGiven table "external") "enabled" (.bool false)) := rfl
    rw [here, spelledGiven]
    cases Environment.given? env "PIPECHECK_EXTERNAL_URL" with
    | some text => rfl
    | none =>
        unfold Entries.fieldOrNull settingOr
        cases Entries.field? (sectionGiven table "external") "enabled" <;> rfl
  have url : ((Environment.given? env "PIPECHECK_EXTERNAL_URL").map Value.str).getD
      (Entries.fieldOrNull (sectionGiven table "external") "url") = (given env table).url := by
    unfold given spelledGiven
    cases Environment.given? env "PIPECHECK_EXTERNAL_URL" <;> rfl
  rw [enabled, url, seconds]
  unfold ServiceSettings.make
  cases reachable : !(given env table).enabled.isTruthy || (given env table).url.isTruthy with
  | false =>
      have missing : ((given env table).enabled.isTruthy && !(given env table).url.isTruthy) = true := by simpa using reachable
      rw [missing]
      exact runs_first _ _ _ _ (runs_stop _ _ _ rfl)
  | true =>
      have not_missing : ((given env table).enabled.isTruthy && !(given env table).url.isTruthy) = false := by
        revert reachable
        cases (given env table).enabled.isTruthy <;> simp
      rw [not_missing]
      simp only [Value.isPositive?, Option.all_some]
      cases positive : x.isPositiveOrNan with
      | false => exact runs_refuse _ _ _ rfl
      | true =>
          refine runs_pure _ _ ⟨rfl, rfl, fun on => ?_, x, rfl, positive, seconds⟩
          change (given env table).enabled.isTruthy = true at on
          simpa [on] using reachable

theorem table_runs : Runs (ofTable env table) (flaws env table) (Follows (given env table)) := by
  unfold ofTable flaws
  refine runs_bind _ _ _ _ (fun _ => ∀ key ∈ Entries.keys table, key.isShowable = true) _
    (runs_for _ _ _ _ fun key _ => key_runs key) fun _ keys => ?_
  refine runs_then _ _ _ _ _ _ (passes_run env table) fun passes same_passes => ?_
  refine runs_on _ _ _ _ _ (compatibility_runs env table) fun compatibility same_compatibility => ?_
  subst same_passes same_compatibility
  refine runs_then _ _ _ _ _ _ (bool_runs _ _) fun repairs given_repairs => ?_
  refine runs_then _ _ _ _ _ _ (bool_runs _ _) fun checks given_checks => ?_
  refine runs_then _ _ _ _ _ _ (section_runs table "logging") fun entries same_log => ?_
  subst same_log
  refine runs_bind _ _ _ _ _ _ (log_runs env table) fun log follows_log => ?_
  refine runs_then _ _ _ _ _ _ (section_runs table "external") fun entries same_service => ?_
  subst same_service
  refine runs_bind _ _ _ _ _ _ (service_runs env table) fun service follows_service => ?_
  have floor_of : (given env table).floor = floorValue env table := rfl
  unfold make
  cases positive : (given env table).maxPasses.isPositiveInteger with
  | false => exact runs_first _ _ _ _ (runs_wrong _ _ _ _ rfl)
  | true =>
      rw [floor_of]
      cases severe : severity? (floorValue env table) with
      | none => exact runs_wrong _ _ _ _ rfl
      | some floor =>
          exact runs_pure _ _ ⟨keys, follows_log, rfl, positive, given_repairs, given_checks, severe, follows_service⟩

end

/-! ## Types -/

end Settings

end PipelineLint
