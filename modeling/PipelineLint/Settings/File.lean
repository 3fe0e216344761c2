import PipelineLint.Files.Path
import PipelineLint.Settings.Table
import PipelineLint.Text.Blank
import PipelineLint.Text.Utf8
import PipelineLint.Toml.Reader
import PipelineLint.Yaml.Assembly

set_option autoImplicit false

namespace PipelineLint.Settings

def ownFile : String := "pipecheck.toml"

def sharedFile : String := "pyproject.toml"

def toolTable : String := "tool"

def toolName : String := "pipecheck"

def decodeFile (bytes : Text.Utf8.Bytes) : Reading (List Char) :=
  match Text.Utf8.decode bytes with
  | .ok text => return text
  | .error _ => throw .undecodable

def noticeItems (items : List Value) : Reading Unit :=
  items.forM fun item =>
    match item.key? with
    | some key => noticeKey key
    | none => throw .sectionNotListable

def ofSection (env : Environment) (value : Value) : Reading Settings := do
  match value with
  | .map table => ofTemplate env table
  | .list items => do
      noticeItems (Environment.substituteItems env items)
      throw .sectionNotTable
  | .str text => do
      noticeItems ((Environment.substituteText env text.toList).map fun c =>
        .str (String.singleton c))
      throw .sectionNotTable
  | _ => throw .sectionNotListable

def toolSection? (table : Entries) : Reading (Option Value) :=
  match settingOr table toolTable (.map []) with
  | .map tools => return Entries.field? tools toolName
  | _ => throw .sectionNotTable

-- Settings from the table of a file. A shared file without a section for the program means the default settings, and one of
-- another name is then a section itself.
def ofTables (env : Environment) (name : String) (table : Entries) : Reading Settings := do
  match ← toolSection? table with
  | some value =>
      if name = sharedFile && !value.isTruthy then ofTable env [] else ofSection env value
  | none => if name = sharedFile then ofTable env [] else ofTemplate env table

def ofTableFile (env : Environment) (name : String) (bytes : Text.Utf8.Bytes) :
    Reading Settings := do
  match Toml.read (← decodeFile bytes) with
  | .ok table => ofTables env name table
  | .error .malformed => Reading.refuse name .malformedTable
  | .error .integerTooLong => throw .integerTooLong

-- Whether a shared file has a section for the program. One that cannot be read has none.
def sharesSection (bytes : Text.Utf8.Bytes) : Reading Bool := do
  match Toml.read (← decodeFile bytes) with
  | .error .malformed => return false
  | .error .integerTooLong => throw .integerTooLong
  | .ok table =>
      match settingOr table toolTable (.map []) with
      | .map tools => return Entries.hasField tools toolName
      | .str text => return Text.occursIn toolName.toList text.toList
      | .list items => return items.any fun item => item.text? == some toolName
      | _ => throw .sectionNotListable

def manifestKind : String := "Config"

def manifestValue (graph : Yaml.Graph) (number : Nat) : Reading Value :=
  match graph.value number with
  | .ok value => return value
  | .error fault => throw (.badManifestValue fault)

def isOwnKind (graph : Yaml.Graph) : Option Nat → Bool
  | some number =>
      match graph.thing number with
      | .scalar (.str kind) => kind = manifestKind
      | _ => false
  | none => false

-- Settings from what a manifest holds.
def ofManifest (env : Environment) (name : String) (graph : Yaml.Graph) : Reading Settings := do
  match graph.rootEntries? with
  | none => Reading.refuse name (.notManifest (graph.typeName graph.root))
  | some entries =>
      let kind := Yaml.Graph.field? entries "kind"
      if !isOwnKind graph kind then
        if kind.all graph.isShowable then
          Reading.refuse name (.otherManifest ((kind.map graph.display).getD Value.null.display))
        else throw .integerTooLong
      else
        match Yaml.Graph.field? entries "spec" with
        | none => ofTemplate env []
        | some spec =>
            match graph.thing spec with
            | .map _ => ofTemplate env (← manifestValue graph spec).entriesOrEmpty
            | _ => Reading.refuse name .specNotMapping

def ofManifestFile (manifests : Yaml.Reader) (env : Environment) (name : String)
    (bytes : Text.Utf8.Bytes) : Reading Settings := do
  match manifests (← decodeFile bytes) with
  | .ok manifest => ofManifest env name manifest
  | .error .malformed => Reading.refuse name .malformedManifest
  | .error fault => throw (.badManifestValue fault)

def ofFile (manifests : Yaml.Reader) (env : Environment) (name : String)
    (bytes : Text.Utf8.Bytes) : Reading Settings :=
  if [".yaml", ".yml"].contains (Files.Path.suffixOf name) then ofManifestFile manifests env name bytes
  else ofTableFile env name bytes

end PipelineLint.Settings
