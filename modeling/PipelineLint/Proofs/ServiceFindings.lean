import PipelineLint.Proofs.JsonDepth
import PipelineLint.Proofs.SureNames
import PipelineLint.Service

set_option autoImplicit false

namespace PipelineLint

namespace Service

inductive Exchange.Unusable : Exchange → Prop where
  | failed (kind detail : String) : Unusable (.failed kind detail)
  | status (status : Int) (body : List UInt8) (levels : Nat) (refused : status < 200 ∨ 299 < status) :
      Unusable (.answered status body levels)
  | body (status : Int) (body : List UInt8) (levels : Nat)
      (no_object : ∀ entries, Json.readBytes none body ≠ .ok (.map entries)) : Unusable (.answered status body levels)
  | lists (status : Int) (body : List UInt8) (levels : Nat) (entries : Entries) (name : String)
      (object : Json.readBytes none body = .ok (.map entries)) (one : name = "errors" ∨ name = "warnings")
      (given : (Entries.fieldOrNull entries name).isTruthy = true)
      (no_list : ∀ items, Entries.fieldOrNull entries name ≠ .list items) : Unusable (.answered status body levels)

-- An accepted answer has more brackets open within each other than there is room to read.
def Exchange.Overruns : Exchange → Prop
  | .answered status body levels =>
      200 ≤ status ∧ status ≤ 299 ∧ ∃ text, Json.textOf? body = some text ∧ levels < Json.deepest text
  | .failed _ _ => False

def Exchange.IsJson : Exchange → Prop
  | .answered _ body _ => ∃ value, Json.readBytes none body = .ok value
  | .failed _ _ => False

theorem list_field_none (entries : Entries) (name : String) :
    listField? entries name = none ↔ (Entries.fieldOrNull entries name).isTruthy = true ∧
      ∀ items, Entries.fieldOrNull entries name ≠ .list items := by
  unfold listField?
  cases Entries.fieldOrNull entries name with
  | list items => by_cases empty : items = [] <;> simp [Value.items?, Value.isTruthy, empty]
  | _ => simp [Value.items?]

theorem verdict_of_missing (entries : Entries) :
    (∃ fault, verdictOf entries = .error fault) ↔ listField? entries "errors" = none ∨ listField? entries "warnings" = none := by
  unfold verdictOf
  cases listField? entries "errors" <;> cases listField? entries "warnings" <;> simp

theorem accepted_status (status : Int) (accepted : ¬(status < 200 ∨ 299 < status)) :
    ¬(decide (status < 200) || decide (299 < status)) = true := by
  simpa using accepted

theorem body_shallow (levels : Nat) (body : List UInt8)
    (room : ∀ text, Json.textOf? body = some text → Json.deepest text ≤ levels) :
    Json.readBytes (some levels) body = Json.readBytes none body := by
  unfold Json.readBytes
  cases decoded : Json.textOf? body with
  | none => rfl
  | some text => exact Json.read_shallow levels text (room text decoded)

theorem body_bearable (body : List UInt8) : Json.readBytes none body ≠ .error .tooDeep := by
  unfold Json.readBytes
  cases Json.textOf? body with
  | none => simp
  | some text => exact Json.read_bearable text

theorem verdict_accepted (status : Int) (body : List UInt8) (levels : Nat) (accepted : ¬(status < 200 ∨ 299 < status))
    (fits : ¬(Exchange.answered status body levels).Overruns) : verdict (.answered status body levels) =
      .ok (match Json.readBytes none body with
        | .error _ => .error .notJson
        | .ok (.map entries) => verdictOf entries
        | .ok _ => .error .notObject) := by
  have room (text : List Char) (decoded : Json.textOf? body = some text) : Json.deepest text ≤ levels := by
    refine Nat.not_lt.mp fun deep => fits ⟨?_, ?_, text, decoded, deep⟩ <;> omega
  have bearable := body_bearable body
  rw [verdict, if_neg (accepted_status status accepted), body_shallow levels body room]
  cases read : Json.readBytes none body with
  | error fault =>
      cases fault with
      | tooDeep => exact absurd read bearable
      | _ => rfl
  | ok value => cases value <;> rfl

theorem verdict_given (exchange : Exchange) (fits : ¬exchange.Overruns) :
    ∃ told, verdict exchange = .ok told ∧ ((∃ fault, told = .error fault) ↔ exchange.Unusable) := by
  cases exchange with
  | failed kind detail => exact ⟨_, rfl, fun _ => .failed kind detail, fun _ => ⟨_, rfl⟩⟩
  | answered status body levels =>
      by_cases refused : status < 200 ∨ 299 < status
      · refine ⟨.error (.status status), ?_, fun _ => .status status body levels refused, fun _ => ⟨_, rfl⟩⟩
        rw [verdict, if_pos (by simpa using refused)]
      · refine ⟨_, verdict_accepted status body levels refused fits, ?_⟩
        have unread (none : ∀ entries, Json.readBytes none body ≠ .ok (.map entries)) (fault : Fault) :
            (∃ other, (Except.error fault : Except Fault Diagnosis) = .error other) ↔
              (Exchange.answered status body levels).Unusable :=
          ⟨fun _ => .body status body levels none, fun _ => ⟨fault, rfl⟩⟩
        cases read : Json.readBytes none body with
        | error fault => exact unread (by simp [read]) .notJson
        | ok value =>
            cases value with
            | scalar s => exact unread (by simp [read]) .notObject
            | list items => exact unread (by simp [read]) .notObject
            | map entries =>
                simp only
                rw [verdict_of_missing, list_field_none, list_field_none]
                constructor
                · rintro (⟨given, no_list⟩ | ⟨given, no_list⟩)
                  · exact .lists status body levels entries "errors" read (.inl rfl) given no_list
                  · exact .lists status body levels entries "warnings" read (.inr rfl) given no_list
                · rintro (_ | ⟨_, _, _, outside⟩ | ⟨_, _, _, no_object⟩ | ⟨_, _, _, held, name, object, one, given, no_list⟩)
                  · exact absurd outside refused
                  · exact absurd read (no_object entries)
                  · obtain rfl : entries = held := Value.map.inj (Except.ok.inj (read.symm.trans object))
                    rcases one with rfl | rfl
                    · exact .inl ⟨given, no_list⟩
                    · exact .inr ⟨given, no_list⟩

theorem verdict_too_deep (exchange : Exchange) (deep : exchange.Overruns) (json : exchange.IsJson) :
    verdict exchange = .error .answerTooDeep := by
  cases exchange with
  | failed => exact absurd deep id
  | answered status body levels =>
      obtain ⟨least, most, text, decoded, beyond⟩ := deep
      obtain ⟨value, well_formed⟩ := json
      have accepted : ¬(status < 200 ∨ 299 < status) := by omega
      simp only [Json.readBytes, decoded] at well_formed
      have stopped : Json.readBytes (some levels) body = .error .tooDeep := by
        simp only [Json.readBytes, decoded, Json.read_deep levels text value well_formed beyond]
      rw [verdict, if_neg (accepted_status status accepted), stopped]

inductive Asked (settings : Settings) (url : String) : Option Client → Prop where
  | given : Asked settings url (some ⟨.str url⟩)
  | enabled (enabled : settings.service.enabled = true) (set : settings.service.url = .str url) (some_url : url ≠ "") :
      Asked settings url none

theorem asked_client (settings : Settings) (url : String) (given : Option Client) (asked : Asked settings url given) :
    client? settings given = .ok (some ⟨.str url⟩) := by
  cases asked with
  | given => rfl
  | enabled enabled set some_url =>
      have truthy : (Value.str url).isTruthy = true := by simp [Value.isTruthy, Scalar.isTruthy, some_url]
      simp [client?, enabled, Client.ofSettings, set, truthy, Except.map]

theorem conclude_given (request : Request) (exchange : Exchange) (fits : ¬exchange.Overruns) :
    ∃ answer, conclude request exchange = .ok answer ∧ answer.requests = [request] ∧
      (exchange.Unusable → answer.diagnosis = {}) := by
  obtain ⟨told, found, missing⟩ := verdict_given exchange fits
  unfold conclude
  rw [found]
  cases told with
  | ok diagnosis =>
      refine ⟨_, rfl, rfl, fun unusable => ?_⟩
      obtain ⟨fault, other⟩ := missing.mpr unusable
      cases other
  | error fault => exact ⟨_, rfl, rfl, fun _ => rfl⟩

end Service

theorem check_errors (check : Check) :
    Entries.field? check.toEntries "errors" = some (.list (check.diagnosis.errors.map Diagnosis.problemValue)) := rfl

theorem check_warnings (check : Check) :
    Entries.field? check.toEntries "warnings" = some (.list (check.diagnosis.warnings.map Value.str)) := rfl

theorem check_valid (check : Check) : Entries.field? check.toEntries "valid" = some (.bool check.diagnosis.isValid) := rfl

theorem check_repair_field (check : Check) (name : String) (other : name ≠ "valid" ∧ name ≠ "errors" ∧ name ≠ "warnings") :
    Entries.field? check.toEntries name = Entries.field? ((check.repaired.map Check.repairEntries).getD []) name := by
  obtain ⟨valid, errors, warnings⟩ := other
  simp [Check.toEntries, Diagnosis.toEntries, Entries.field?, Entries.get?, valid.symm, errors.symm, warnings.symm]

theorem unmodified_text (limit : Nat) (text : String) (unmodified : (repairWithin limit text).isModified = false) :
    (repairWithin limit text).text = text := by
  have edits := Repair.passes_edits limit _ (Repair.split_feeds_lines text.toList)
  rw [repair_within_eq] at unmodified ⊢
  simp only [Repaired.isModified, Bool.not_eq_false', List.isEmpty_iff] at unmodified ⊢
  rw [unmodified] at edits
  generalize (Repair.passes limit (Text.splitFeeds text.toList)).1 = lines at edits ⊢
  cases edits
  rw [Text.joinFeeds_splitFeeds, String.ofList_toList]

theorem checked_text_told (settings : Settings) (text : String) (found : Check) (checked : check settings text = .ok found) :
    checkedText text found.repaired = ((Entries.field? found.toEntries "fixed_yaml").bind Value.text?).getD text := by
  rw [check_repair_field found "fixed_yaml" (by decide)]
  obtain same : found.repaired = settings.repair? text := by
    unfold check at checked
    simp only at checked
    split at checked
    · cases checked
      rfl
    · cases checked
  rw [same]
  by_cases repairs : settings.repairs = true
  · simp only [Settings.repair?, repairs, if_true, checkedText, Option.map_some, Option.getD_some, Check.repairEntries]
    by_cases modified : (repairWithin settings.passLimit text).isModified = true
    · simp [modified, Entries.field?, Entries.get?, Value.text?]
    · rw [unmodified_text _ text (by simpa using modified), if_neg modified, List.nil_append]
      split <;> simp [Entries.field?, Entries.get?]
  · simp [Settings.repair?, repairs, checkedText, Entries.field?, Entries.get?]

-- Whatever comes of asking the service, the text that was checked is sent once; what was found without the service stands in
-- front of what it adds, and what is told of the repair stays. Where there is no verdict the answer is the one without the
-- service. Nothing of this holds of a JSON answer with more brackets within each other than there is room to read.
theorem service_only_adds (settings : Settings) (text url : String) (given : Option Service.Client)
    (asked : Service.Asked settings url given) (exchange : Service.Exchange) (found : Check)
    (checked : check settings text = .ok found) :
    (¬exchange.Overruns → ∃ result, checkWithService settings text given exchange = .ok result ∧
      (∃ request, result.requests = [request] ∧ request.url = url ∧ request.body =
        .map [(.str "yaml", .str (((Entries.field? found.toEntries "fixed_yaml").bind Value.text?).getD text))]) ∧
      (∃ errors all, Entries.field? found.toEntries "errors" = some (.list errors) ∧
        Entries.field? result.check.toEntries "errors" = some (.list all) ∧ errors <+: all ∧
        Entries.field? result.check.toEntries "valid" = some (.bool all.isEmpty)) ∧
      (∃ warnings all, Entries.field? found.toEntries "warnings" = some (.list warnings) ∧
        Entries.field? result.check.toEntries "warnings" = some (.list all) ∧ warnings <+: all) ∧
      (∀ name ∈ ["fixed_yaml", "fixes_applied", "suggested_fixes"],
        Entries.field? result.check.toEntries name = Entries.field? found.toEntries name) ∧
      (exchange.Unusable → result.check.toEntries = found.toEntries)) ∧
    (exchange.Overruns → exchange.IsJson → checkWithService settings text given exchange = .error .answerTooDeep) := by
  have used := Service.asked_client settings url given asked
  constructor
  · intro fits
    obtain ⟨answer, answered, sent, nothing⟩ :=
      Service.conclude_given ⟨url, checkedText text found.repaired⟩ exchange fits
    have asks : Service.Client.ask ⟨.str url⟩ (checkedText text found.repaired) exchange = .ok answer := answered
    refine ⟨⟨{ found with diagnosis := found.diagnosis.merge answer.diagnosis }, answer.requests, answer.notices⟩, ?_,
      ⟨_, sent, rfl, ?_⟩, ⟨_, _, check_errors found, check_errors _, ?_, ?_⟩,
      ⟨_, _, check_warnings found, check_warnings _, ?_⟩, fun name told => ?_, fun unusable => ?_⟩
    · simp [checkWithService, checked, used, asks]
    · rw [Service.Request.body, checked_text_told settings text found checked]
    · exact (List.prefix_append _ _).map _
    · rw [check_valid, List.isEmpty_map]
      rfl
    · exact (List.prefix_append _ _).map _
    · have other : name ≠ "valid" ∧ name ≠ "errors" ∧ name ≠ "warnings" := by
        simp only [List.mem_cons, List.not_mem_nil, or_false] at told
        rcases told with rfl | rfl | rfl <;> decide
      rw [check_repair_field _ name other, check_repair_field _ name other]
    · have unchanged : found.diagnosis.merge answer.diagnosis = found.diagnosis := by
        simp [nothing unusable, Diagnosis.merge]
      rw [unchanged]
  · intro deep json
    have asks : Service.Client.ask ⟨.str url⟩ (checkedText text found.repaired) exchange = .error .answerTooDeep := by
      simp only [Service.Client.ask, Service.conclude, Service.verdict_too_deep exchange deep json]
    simp [checkWithService, checked, used, asks]

def misnamedInput : String := "input:\n  kafaka:\noutput:\n  stdout:\n"

theorem misnamed_input_checked (service : ServiceSettings) : ∃ found, check { service } misnamedInput = .ok found ∧
    found.repaired = some (repairWithin 10 misnamedInput) := by
  have named : ∀ name ∈ ["kafka"], Document.isWrittenKey name.toList = true := List.forall_mem_singleton.mpr (by decide)
  obtain ⟨diagnosis, answered, -⟩ := written_sure_names _ (inputs_writable ["kafka"] named (by simp)) 0 _ _
    (inputs_written ["kafka"] named (by simp)) (inputs_laid_out _)
  have text : String.ofList (Text.joinFeeds (inputLines ["kafka"])) = (repairWithin 10 misnamedInput).text := by decide +kernel
  rw [text] at answered
  refine ⟨⟨diagnosis, some (repairWithin 10 misnamedInput)⟩, ?_, rfl⟩
  have settings : Settings.options { service } = {} := rfl
  have repaired : Settings.repair? { service } misnamedInput = some (repairWithin 10 misnamedInput) := rfl
  simp only [check, settings, repaired, checkedText, Option.map_some, Option.getD_some, answered]

theorem service_only_adds_repaired : ∃ found result,
    Service.Asked { service := { timeout := .int 10 } } "https://validator.example.com/validate"
      (some ⟨.str "https://validator.example.com/validate"⟩) ∧
    check { service := { timeout := .int 10 } } misnamedInput = .ok found ∧
    checkWithService { service := { timeout := .int 10 } } misnamedInput
      (some ⟨.str "https://validator.example.com/validate"⟩) (.failed "ConnectError" "connection refused") = .ok result ∧
    (∃ request, result.requests = [request] ∧ request.body = .map [(.str "yaml", .str "input:\n  kafka:\noutput:\n  stdout:\n")]) ∧
    result.check.toEntries = found.toEntries := by
  obtain ⟨found, checked, repaired⟩ := misnamed_input_checked { timeout := .int 10 }
  obtain ⟨result, answered, ⟨request, only, -, body⟩, -, -, -, unusable⟩ := (service_only_adds _ misnamedInput
    "https://validator.example.com/validate" (some ⟨.str "https://validator.example.com/validate"⟩) .given
    (.failed "ConnectError" "connection refused") found checked).1 id
  have text : checkedText misnamedInput (some (repairWithin 10 misnamedInput)) = "input:\n  kafka:\noutput:\n  stdout:\n" := by
    decide +kernel
  refine ⟨found, result, .given, checked, answered, ⟨request, only, ?_⟩, unusable (.failed _ _)⟩
  rw [body, ← checked_text_told _ misnamedInput found checked, repaired, text]

def bracketsBody (count : Nat) : List UInt8 :=
  List.replicate count 91 ++ List.replicate count 93

theorem ascii_front (byte : UInt8) (rest : List UInt8) (ascii : byte < 128) :
    Text.Utf8.front true byte rest = (.inl (Char.ofNat byte.toNat), 0) := by
  have small : byte.toNat < 128 := ascii
  have character : Text.charOfCode byte.toNat = Char.ofNat byte.toNat := by
    have other : Text.isSurrogate byte.toNat = false := by simp [Text.isSurrogate]; omega
    simp [Text.charOfCode, other]
  simp [Text.Utf8.front, Text.Utf8.tailCount?, ascii, Text.Utf8.takeTails, Text.Utf8.codePoint, character]

theorem ascii_decoded (bytes : List UInt8) (ascii : ∀ byte ∈ bytes, byte < 128) (position : Nat) :
    Text.Utf8.decodeFrom true position bytes = .ok (bytes.map fun byte => Char.ofNat byte.toNat) := by
  induction bytes generalizing position with
  | nil => rw [Text.Utf8.decodeFrom]; rfl
  | cons byte rest ih =>
      obtain ⟨here, others⟩ := List.forall_mem_cons.mp ascii
      rw [Text.Utf8.decodeFrom, ascii_front byte rest here]
      simp only [List.drop_zero, ih others]
      rfl

theorem brackets_text (count : Nat) (some_brackets : 4 ≤ count) :
    Json.textOf? (bracketsBody count) = some (List.replicate count '[' ++ List.replicate count ']') := by
  obtain ⟨more, rfl⟩ := Nat.exists_eq_add_of_le' some_brackets
  have ascii : ∀ byte ∈ bracketsBody (more + 4), byte < 128 := by
    intro byte member
    rcases List.mem_append.mp member with first | second
    · rw [List.eq_of_mem_replicate first]
      decide
    · rw [List.eq_of_mem_replicate second]
      decide
  have unmarked : Json.markedEncoding? (bracketsBody (more + 4)) = none := by
    simp [bracketsBody, List.replicate_succ, Json.markedEncoding?]
  have encoding : Json.unmarkedEncoding (bracketsBody (more + 4)) = .utf8 := by
    simp [bracketsBody, List.replicate_succ, Json.unmarkedEncoding]
  simp only [Json.textOf?, unmarked, encoding, Option.getD_none, Json.Encoding.decode?, ascii_decoded _ ascii]
  simp [bracketsBody, Except.toOption]

theorem brackets_too_deep (levels : Nat) (rest : List Char) :
    Json.valueFront (some levels) (List.replicate (levels + 1) '[' ++ rest) = .error .tooDeep := by
  induction levels with
  | zero => rw [List.replicate_succ, List.cons_append, Json.value_list]; rfl
  | succ levels ih =>
      have shown : Json.skipSpaces (List.replicate (levels + 1) '[' ++ rest) = List.replicate (levels + 1) '[' ++ rest := rfl
      rw [List.replicate_succ, List.cons_append, Json.value_list]
      simp only [Json.Levels.inside, Except.bind, shown]
      rw [Json.items_front, shown, ih]
      rfl

theorem brackets_unread (levels count : Nat) (some_brackets : 4 ≤ count) (beyond : levels < count) :
    Json.readBytes (some levels) (bracketsBody count) = .error .tooDeep := by
  obtain ⟨more, rfl⟩ := Nat.exists_eq_add_of_le beyond
  have opened : List.replicate (levels.succ + more) '[' = List.replicate (levels + 1) '[' ++ List.replicate more '[' :=
    List.replicate_add _ _ _
  rw [Json.readBytes, brackets_text _ some_brackets]
  simp only [Json.read_front, opened, List.append_assoc]
  rw [show Json.skipSpaces (List.replicate (levels + 1) '[' ++ _) = List.replicate (levels + 1) '[' ++ _ from rfl,
    brackets_too_deep]
  rfl

theorem brackets_unanswered (service : ServiceSettings) (url : String) (levels count : Nat) (some_brackets : 4 ≤ count)
    (beyond : levels < count) (found : Check) (checked : check { service } misnamedInput = .ok found) :
    checkWithService { service } misnamedInput (some ⟨.str url⟩) (.answered 200 (bracketsBody count) levels) =
      .error .answerTooDeep := by
  have stopped := brackets_unread levels count some_brackets beyond
  have asks : Service.Client.ask ⟨.str url⟩ (checkedText misnamedInput found.repaired)
      (.answered 200 (bracketsBody count) levels) = .error .answerTooDeep := by
    simp [Service.Client.ask, Service.conclude, Service.verdict, stopped]
  simp [checkWithService, checked, Service.client?, asks]

-- The body of an accepted answer that is no JSON object keeps a check from being answered.
theorem deep_answer_unanswered : ∃ found,
    check { service := { timeout := .int 10 } } misnamedInput = .ok found ∧
    checkWithService { service := { timeout := .int 10 } } misnamedInput
      (some ⟨.str "https://validator.example.com/validate"⟩) (.answered 200 (bracketsBody 20000) 960) = .error .answerTooDeep := by
  obtain ⟨found, checked, -⟩ := misnamed_input_checked { timeout := .int 10 }
  exact ⟨found, checked, brackets_unanswered _ _ 960 20000 (by decide) (by decide) found checked⟩

end PipelineLint
