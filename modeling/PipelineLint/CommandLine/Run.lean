import PipelineLint.Catalog.Reference
import PipelineLint.CommandLine.Report
import PipelineLint.CommandLine.Request
import PipelineLint.CommandLine.Screen
import PipelineLint.Service
import PipelineLint.Settings.Session

set_option autoImplicit false

namespace PipelineLint.CommandLine

inductive Failure where
  | markup (fault : Markup.Fault)
  | settings (fault : Settings.Fault)
  | check (fault : Service.CheckFault)

def Failure.message : Failure → String
  | .markup (.notOpen name) => "closing tag of a style that is not open: " ++ name
  | .markup .nothingOpen => "closing tag, and no style is open"
  | .markup .badParameters => "a tag has parameters without a value"
  | .markup .badColor => "a part of a color is no number"
  | .settings fault => fault.message
  | .check fault => fault.message

inductive Stop where
  | status (code : Nat)
  | usage (fault : UsageFault)
  | failed (failure : Failure)

structure State where
  world : Settings.World
  printed : List String := []
  notices : List Notice := []

-- Programs: what was printed and changed stays so if they end early.
abbrev Program (α : Type) := ExceptT Stop (StateM State) α

namespace Program

def exit {α : Type} (code : Nat) : Program α :=
  throw (.status code)

def fail {α : Type} (failure : Failure) : Program α :=
  throw (.failed failure)

def print (text : String) : Program Unit :=
  modify fun state => { state with printed := text :: state.printed }

def showLine (markup : String) : Program Unit :=
  match Screen.line markup with
  | .ok text => print text
  | .error fault => fail (.markup fault)

def showLines (lines : List String) : Program Unit :=
  lines.forM showLine

def showText (text : String) : Program Unit :=
  print (Screen.text text)

def showValue (value : Value) : Program Unit :=
  showText (Json.indented 0 value)

def refuse {α : Type} (markup : String) : Program α := do
  showLine markup
  exit 1

-- Ends a program whose settings are refused. Other faults in them are unexpected.
def refuseSettings {α : Type} (fault : Settings.Fault) : Program α :=
  match fault with
  | .refused _ _ | .notFound _ => refuse ("✗ Configuration Error: " ++ fault.message)
  | _ => fail (.settings fault)

def loadSettings (path : Option String) : Program Settings := do
  let path := path.map fun text => (Files.Path.ofText text).text
  let (loaded, notices) := ((← get).world.load path).outcome
  modify fun state => { state with notices := state.notices ++ notices }
  match loaded with
  | .ok settings => return settings
  | .error fault => refuseSettings fault

def asksForDirectory (path : String) : Bool :=
  match path.toList.reverse.takeWhile (· ≠ '/') with
  | [] => true
  | last => last == ['.']

def requireFile (path : String) : Program (Files.Place × Text.Utf8.Bytes) := do
  let world := (← get).world
  match world.tree.find? world.directory (.ofText path) with
  | none => throw (.usage (.noFile path))
  | some (_, .directory) => throw (.usage (.notFile path))
  | some (place, .file bytes) =>
      if asksForDirectory path then throw (.usage (.noFile path)) else return (place, bytes)

-- The text of a file, with line feeds as its only line boundaries.
def decodeFile (bytes : Text.Utf8.Bytes) : Program String :=
  match Text.Utf8.decode bytes with
  | .ok text => return String.ofList (Text.unifyBreaks text)
  | .error malformed => refuse ("✗ File Error: " ++ malformed.message)

def writeFile (place : Files.Place) (text : String) : Program Unit :=
  modify fun state =>
    let tree := state.world.tree.write place (Text.Utf8.encode text.toList)
    { state with world := { state.world with tree } }

def requireFormat (format : String) : Program Unit :=
  if format = Request.textFormat || format = Request.jsonFormat then return
  else refuse ("✗ Invalid format: " ++ format ++ " (use text or json)")

def requireCategory (known : List String) (category : Option String) : Program Unit :=
  match category with
  | none => return
  | some name =>
      if known.contains name then return
      else
        refuse ("✗ Invalid category: " ++ Markup.escape name ++ " (use one of: " ++
          ", ".intercalate known ++ ")")

end Program

open Program

def checkSettings (settings : Settings) (repairs compatibility : Bool) : Settings :=
  { settings with repairs, compatibility := settings.compatibility && compatibility }

def runCheck (exchange : Service.Exchange) (settings : Settings) (service : Bool) (text : String) :
    Program Check :=
  if service then do
    let asked := settings.service
    match ServiceSettings.make true asked.url asked.timeout with
    | .error fault => refuseSettings fault
    | .ok asked =>
        match checkWithService { settings with service := asked } text none exchange with
        | .error fault => fail (.check fault)
        | .ok found => do
            modify fun state => { state with notices := state.notices ++ found.notices }
            return found.check
  else
    match check settings text with
    | .ok found => return found
    | .error fault => fail (.check (.check fault))

def validate (exchange : Service.Exchange) (settings : Settings) (file format : String)
    (service : Bool) : Program Unit := do
  let (_, bytes) ← requireFile file
  requireFormat format
  let text ← decodeFile bytes
  let found ← runCheck exchange settings service text
  if format = Request.jsonFormat then showValue (.map found.toEntries)
  else showLines (checkLines (Files.Path.ofText file).text found)
  if !found.diagnosis.isValid then exit 1

def fix (settings : Settings) (file : String) (write : Bool) (format : String) : Program Unit := do
  let (place, bytes) ← requireFile file
  requireFormat format
  let text ← decodeFile bytes
  let repaired := repairWithin settings.passLimit text
  if write && repaired.isModified then writeFile place repaired.text
  if format = Request.jsonFormat then showValue (.map (repairEntries repaired))
  else
    showLines (repairLines (Files.Path.ofText file).text write repaired)
    if !write then showText repaired.text

def schema (name : String) (category : Option String) (format : String) : Program Unit := do
  requireCategory (Category.all.map Category.name) category
  let scope := Scope.ofName category
  if format = Request.jsonFormat then
    match Catalog.spec? name scope with
    | some spec => showValue spec.toValue
    | none => refuse ("✗ No schema for component: " ++ Markup.escape name)
  else
    match Catalog.describe name scope with
    | .ok page => showText page
    | .error unknown => refuse ("✗ " ++ Markup.escape unknown.message)

def componentLine (spec : ComponentSpec) : String :=
  spec.name ++ " (" ++ spec.category.name ++ "): " ++ spec.description

def namesLine (category : String) (names : List String) : String :=
  category ++ " (" ++ toString names.length ++ "): " ++ ", ".intercalate names

def components (category search : Option String) (format : String) : Program Unit := do
  requireCategory (Category.all.map Category.name) category
  let scope := Scope.ofName category
  match search with
  | some query =>
      let specs := Catalog.searchSpecs query scope
      if format = Request.jsonFormat then showValue (.list (specs.map ComponentSpec.summary))
      else specs.forM fun spec => showText (componentLine spec)
  | none =>
      if format = Request.jsonFormat then showValue (Catalog.namesValue scope)
      else (Catalog.listNames scope).forM fun (name, names) => showText (namesLine name names)

def builtinLine (item : Builtin) : String :=
  let call := if item.kind = .method then "." ++ item.signature else item.signature
  call ++ " (" ++ item.category ++ "): " ++ item.description

def bloblang (query category : Option String) (format : String) : Program Unit := do
  requireCategory (["all", "functions", "methods"] ++ Builtin.categories) category
  let query := query.getD ""
  let items := Builtin.lookup query category
  if format = Request.jsonFormat then showValue (.list (items.map Builtin.toValue))
  else if items.isEmpty then
    showLine ("No Bloblang functions or methods match '" ++ Markup.escape query ++ "'")
  else items.forM fun item => showText (builtinLine item)

def runRequest (exchange : Service.Exchange) (settings : Settings) : Request → Program Unit
  | .help command => showText ("Usage: pipecheck " ++ command.usage)
  | .validate file repairs format compatibility service =>
      validate exchange (checkSettings settings repairs compatibility) file format service
  | .fix file write format => fix settings file write format
  | .schema name category format => schema name category format
  | .components category search format => components category search format
  | .bloblang query category format => bloblang query category format

def helpText : String :=
  "\n".intercalate
    ("Usage: pipecheck [--quiet] [--verbose] [--config PATH] [--version] COMMAND" ::
      Command.all.map fun command => "  " ++ command.usage ++ ": " ++ command.purpose)

def versionText : String := "pipecheck version 0.3.0"

-- Runs a command line. Its settings are loaded before the words of the command are looked at.
def program (exchange : Service.Exchange) (words : List String) : Program Unit := do
  match Opening.ofWords words with
  | .error fault => throw (.usage fault)
  | .ok .help => showText helpText
  | .ok .version => showText versionText
  | .ok (.command command path words) =>
      let settings ← loadSettings path
      match Request.ofWords command words with
      | .error fault => throw (.usage fault)
      | .ok request => runRequest exchange settings request

structure Outcome where
  status : Nat
  printed : String
  tree : Files.Tree
  notices : List Notice
  complaint : Option UsageFault := none
  failure : Option Failure := none

def Outcome.ofState (state : State) (stop : Except Stop Unit) : Outcome :=
  let outcome : Outcome :=
    { status := 0, printed := String.join state.printed.reverse, tree := state.world.tree
      notices := state.notices }
  match stop with
  | .ok () => outcome
  | .error (.status code) => { outcome with status := code }
  | .error (.usage fault) => { outcome with status := 2, complaint := some fault }
  | .error (.failed failure) => { outcome with status := 1, failure := some failure }

/-- Runs a command line on some files, where `exchange` is what comes of asking the service. -/
def run (world : Settings.World) (exchange : Service.Exchange) (words : List String) : Outcome :=
  let (stop, state) := (program exchange words).run.run { world }
  Outcome.ofState state stop

end PipelineLint.CommandLine
