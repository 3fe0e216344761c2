import PipelineLint.Catalog.ComponentType
import PipelineLint.Value.Display

set_option autoImplicit false

namespace PipelineLint.Compatibility

structure Part where
  type : String
  value : Value

def Part.options (part : Part) : Entries :=
  part.value.entriesOrEmpty

structure Outline where
  whole : Entries
  input : Option Part
  output : Option Part
  processors : List Part
  buffer : Option Part
  cacheLabels : List String
  rateLimitLabels : List String

def part? (value : Value) : Except KeyFault (Option Part) :=
  match value with
  | .map entries =>
      match Catalog.componentType entries with
      | .error fault => .error fault
      | .ok none => .ok none
      | .ok (some type) => .ok (some ⟨type, Entries.fieldOrNull entries type⟩)
  | _ => .ok none

def processorPart (value : Value) : Except KeyFault Part :=
  (part? value).map fun part => part.getD ⟨"unknown", value⟩

def labels (value : Value) : List String :=
  match value with
  | .list items =>
      items.filterMap fun item =>
        match item with
        | .map entries => some (((Entries.field? entries "label").map Value.display).getD "")
        | _ => none
  | _ => []

def processorValues (entries : Entries) : List Value :=
  match Entries.fieldOrNull entries "pipeline" with
  | .map section_ => ((Entries.fieldOrNull section_ "processors").items?).getD []
  | _ => []

def Outline.of (entries : Entries) : Except KeyFault Outline := do
  let processors ← (processorValues entries).mapM processorPart
  let input ← part? (Entries.fieldOrNull entries "input")
  let output ← part? (Entries.fieldOrNull entries "output")
  let buffer ← part? (Entries.fieldOrNull entries "buffer")
  return {
    whole := entries
    input, output, processors, buffer
    cacheLabels := labels (Entries.fieldOrNull entries "cache_resources")
    rateLimitLabels := labels (Entries.fieldOrNull entries "rate_limit_resources") }

namespace Outline

def inputType (outline : Outline) : String :=
  (outline.input.map Part.type).getD ""

def outputType (outline : Outline) : String :=
  (outline.output.map Part.type).getD ""

def inputOptions (outline : Outline) : Entries :=
  (outline.input.map Part.options).getD []

def outputOptions (outline : Outline) : Entries :=
  (outline.output.map Part.options).getD []

def hasProcessor (outline : Outline) (type : String) : Bool :=
  outline.processors.any (·.type == type)

def firstProcessor? (outline : Outline) (type : String) : Option Part :=
  outline.processors.find? (·.type == type)

end Outline

end PipelineLint.Compatibility
