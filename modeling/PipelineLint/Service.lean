import PipelineLint.Check
import PipelineLint.Json.Bytes

set_option autoImplicit false

namespace PipelineLint.Service

structure Request where
  url : String
  text : String
deriving DecidableEq

def Request.body (request : Request) : Value :=
  .map [(.str "yaml", .str request.text)]

-- How the exchange with the service ended: with an answer, in whose body there is room to read a number of lists and mappings
-- within each other, or with a failure of some kind.
inductive Exchange where
  | answered (status : Int) (body : List UInt8) (levels : Nat)
  | failed (kind detail : String)

inductive Fault where
  | failed (kind detail : String)
  | status (code : Int)
  | notJson
  | notObject
  | notLists
deriving DecidableEq

def Fault.reason : Fault → String
  | .failed kind detail => kind ++ ": " ++ detail
  | .status code => "HTTP " ++ String.ofList (Numeral.intText code)
  | .notJson => "response is not JSON"
  | .notObject => "response is not a JSON object"
  | .notLists => "errors and warnings must be lists"

def defaultPath : String := "external"

def problem? (item : Value) : Option Problem :=
  match item with
  | .str message => some ⟨defaultPath, message, none⟩
  | .map entries =>
      let message := Entries.fieldOrNull entries "message"
      let path := Entries.fieldOrNull entries "path"
      let suggestion := Entries.fieldOrNull entries "suggestion"
      if message.isTruthy then
        some ⟨if path.isTruthy then path.display else defaultPath, message.display,
          if suggestion.isTruthy then some suggestion.display else none⟩
      else none
  | _ => none

def listField? (entries : Entries) (name : String) : Option (List Value) :=
  let value := Entries.fieldOrNull entries name
  if value.isTruthy then value.items? else some []

-- Whether the service says in so many words that a document is invalid.
def rejects (entries : Entries) : Bool :=
  match Entries.fieldOrNull entries "valid" with
  | .bool valid => !valid
  | _ => false

def rejection : Problem :=
  ⟨defaultPath, "Rejected by external validator", none⟩

def verdictOf (entries : Entries) : Except Fault Diagnosis :=
  match listField? entries "errors", listField? entries "warnings" with
  | some errors, some warnings =>
      let errors := errors.filterMap problem?
      .ok {
        errors := if errors.isEmpty && rejects entries then [rejection] else errors
        warnings := warnings.map Value.display }
  | _, _ => .error .notLists

inductive CheckFault where
  | check (fault : PipelineLint.Fault)
  | noUrl
  | urlNotText
  | answerTooDeep
deriving DecidableEq

def CheckFault.message : CheckFault → String
  | .noUrl => "ExternalValidatorConfig.url is not set"
  | _ => ""

-- The verdict at the end of an exchange, or why there is none. Nobody is prepared for a body that is too deep to be read.
def verdict : Exchange → Except CheckFault (Except Fault Diagnosis)
  | .failed kind detail => .ok (.error (.failed kind detail))
  | .answered status body levels =>
      if status < 200 || 299 < status then .ok (.error (.status status))
      else
        match Json.readBytes (some levels) body with
        | .error .tooDeep => .error .answerTooDeep
        | .error _ => .ok (.error .notJson)
        | .ok (.map entries) => .ok (verdictOf entries)
        | .ok _ => .ok (.error .notObject)

structure Answer where
  diagnosis : Diagnosis := {}
  requests : List Request := []
  notices : List Notice := []

def conclude (request : Request) (exchange : Exchange) : Except CheckFault Answer :=
  match verdict exchange with
  | .error fault => .error fault
  | .ok (.ok diagnosis) => .ok { diagnosis, requests := [request] }
  | .ok (.error fault) =>
      .ok { requests := [request], notices := [.serviceUnavailable fault.reason] }

structure Client where
  url : Value

def Client.ofSettings (service : ServiceSettings) : Except CheckFault Client :=
  if service.url.isTruthy then .ok ⟨service.url⟩ else .error .noUrl

def Client.ask (client : Client) (text : String) (exchange : Exchange) : Except CheckFault Answer :=
  match client.url with
  | .str url => conclude ⟨url, text⟩ exchange
  | _ => .error .urlNotText

def client? (settings : Settings) (given : Option Client) : Except CheckFault (Option Client) :=
  match given with
  | some client => .ok (some client)
  | none =>
      if settings.service.enabled then (Client.ofSettings settings.service).map some
      else .ok none

end PipelineLint.Service

namespace PipelineLint

open Service

structure ServiceCheck where
  check : Check
  requests : List Request := []
  notices : List Notice := []

-- Checks a document and then asks the service about the text that was checked.
def checkWithService (settings : Settings) (text : String) (given : Option Client)
    (exchange : Exchange) : Except CheckFault ServiceCheck :=
  match check settings text with
  | .error fault => .error (.check fault)
  | .ok found =>
      match client? settings given with
      | .error fault => .error fault
      | .ok none => .ok { check := found }
      | .ok (some client) =>
          match client.ask (checkedText text found.repaired) exchange with
          | .error fault => .error fault
          | .ok answer =>
              .ok {
                check := { found with diagnosis := found.diagnosis.merge answer.diagnosis }
                requests := answer.requests
                notices := answer.notices }

end PipelineLint
