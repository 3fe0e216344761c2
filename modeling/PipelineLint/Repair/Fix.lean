import PipelineLint.Catalog.Resolution
import PipelineLint.Text.Blank
import PipelineLint.Value.Basic

set_option autoImplicit false

namespace PipelineLint.Repair

inductive FixKind where
  | outline
  | component
  | call (kind : CallKind)
deriving DecidableEq

namespace FixKind

def name : FixKind → String
  | .outline => "structure"
  | .component => "component"
  | .call kind => kind.name

def label : FixKind → String
  | .outline => "Structure"
  | .component => "Component"
  | .call kind => "Bloblang " ++ kind.name

def all : List FixKind := [.outline, .component, .call .method, .call .function]

def ofName? (name : String) : Option FixKind :=
  all.find? fun kind => kind.name == name

def decorate (kind : FixKind) (name : String) : String :=
  match kind with
  | .outline => "pipeline." ++ name
  | .component => name ++ ":"
  | .call kind => kind.render name

end FixKind

structure Fix where
  kind : FixKind
  found : String
  candidates : List String
  confidence : Confidence
  line : Option Int := none
  reason : String := ""
deriving DecidableEq

namespace Fix

def sure (kind : FixKind) (name target : String) (line : Nat) : Fix :=
  { kind, found := kind.decorate name, candidates := [target], confidence := .high
    line := some (line + 1 : Nat) }

def replacement? (fix : Fix) : Option String :=
  match fix.candidates with
  | [target] => some target
  | _ => none

def describe (fix : Fix) : String :=
  let target := " | ".intercalate fix.candidates
  let (before, after) :=
    match fix.kind with
    | .component =>
        (String.ofList (Text.dropTrailing (· == ':') fix.found.toList), target)
    | .call kind => (fix.found, kind.render target)
    | .outline => (fix.found, FixKind.outline.decorate target)
  fix.kind.label ++ ": \"" ++ before ++ "\" -> \"" ++ after ++ "\""

def toEntries (fix : Fix) : Entries :=
  let line :=
    match fix.line with
    | some line => [(.str "line", .int line)]
    | none => []
  let reason := if fix.reason = "" then [] else [(.str "reason", .str fix.reason)]
  [(.str "kind", .str fix.kind.name), (.str "original", .str fix.found),
    (.str "candidates", .list (fix.candidates.map Value.str)),
    (.str "confidence", .str fix.confidence.name)] ++ line ++ reason

end Fix

end PipelineLint.Repair
