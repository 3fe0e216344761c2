import PipelineLint.Compatibility.Rules
import PipelineLint.Document.Block
import PipelineLint.Document.Segments
import PipelineLint.Validation.Component
import PipelineLint.Validation.Expressions

set_option autoImplicit false

namespace PipelineLint.Validation

def inventedKeys : List String := [
  "components", "with", "steps", "tasks", "stages", "jobs", "sources", "sinks", "transforms",
  "actions", "flows"
]

def manifestKeys : List String := ["apiVersion", "kind", "metadata", "spec", "version"]

def pipelineKeys : List String := ["processors", "threads"]

def topLevelKeys : List String := [
  "input", "output", "pipeline", "buffer", "resources", "cache_resources",
  "rate_limit_resources", "processor_resources", "input_resources", "output_resources", "http",
  "logger", "metrics", "tracer", "shutdown_timeout", "shutdown_delay", "tests"
]

def structureHint : String :=
  "Expanso pipelines use: input:, pipeline: processors: [...], output:"

def sectionHint : String :=
  "Structure: input: <type>: <config>, pipeline: processors: [...], output: <type>: <config>"

def processorsHint : String :=
  "Correct structure: pipeline: processors: [- mapping: ..., - jq: ...]"

def inventedKey (key : String) : Problem :=
  ⟨keyed rootPath key,
    "Invalid key \"" ++ key ++ "\". Expanso pipelines use \"input\", \"pipeline\", and \"output\"",
    some sectionHint⟩

def manifestKey (key : String) : Problem :=
  ⟨keyed rootPath key,
    "Invalid Kubernetes-style key \"" ++ key ++ "\". This is not a K8s manifest",
    some structureHint⟩

def typedDocument (type : String) : Problem :=
  ⟨"root.type",
    "Invalid top-level \"type: " ++ type ++ "\". This looks like hallucinated syntax",
    some "Pipeline components are defined as: input: <component_type>: <config>"⟩

def workflowDocument : Problem :=
  ⟨rootPath, "This looks like a GitHub Actions workflow, not an Expanso pipeline",
    some structureHint⟩

def composeDocument : Problem :=
  ⟨rootPath, "This looks like a Docker Compose file, not an Expanso pipeline",
    some structureHint⟩

def wrongPipelineKey (key : String) : Problem :=
  ⟨"pipeline." ++ key,
    "Invalid pipeline key \"" ++ key ++ "\". Use \"processors\" for transformations",
    some processorsHint⟩

def pipelineNotMapping : Problem :=
  ⟨"pipeline", "pipeline must be an object", some processorsHint⟩

def pipelineProblems (pipeline : Value) : List Problem :=
  match pipeline with
  | .null => []
  | .map entries =>
      ((Entries.keys entries).filter fun key => !isOneOf pipelineKeys key).map fun key =>
        wrongPipelineKey key.display
  | _ => [pipelineNotMapping]

def foreignProblems (entries : Entries) : List Problem :=
  (inventedKeys.filter (Entries.hasField entries)).map inventedKey ++
    (manifestKeys.filter (Entries.hasField entries)).map manifestKey ++
    ((Entries.fieldOrNull entries "type").text?.map typedDocument).toList ++
    (if Entries.hasField entries "name" && Entries.hasField entries "on" then [workflowDocument]
     else []) ++
    (if Entries.hasField entries "services" || Entries.hasField entries "volumes" then
      [composeDocument]
     else []) ++
    pipelineProblems (Entries.fieldOrNull entries "pipeline")

-- Keys that are reported as errors when they stand at the top.
def reportedKeys (entries : Entries) : List String :=
  inventedKeys ++ manifestKeys ++ ["type", "services", "volumes"] ++
    (if Entries.hasField entries "on" then ["name", "on"] else [])

def unknownKeyWarnings (entries : Entries) : List String :=
  ((Entries.keys entries).filter fun key =>
    !isOneOf topLevelKeys key && !isOneOf (reportedKeys entries) key).map fun key =>
      "Unknown top-level key \"" ++ key.display ++ "\" will be ignored"

def missingSection (name : String) : Problem :=
  let hint :=
    if name = "input" then "Add an input section like: input: kafka: addresses: [...]"
    else "Add an output section like: output: aws_s3: bucket: my-bucket"
  ⟨rootPath, "Missing required \"" ++ name ++ "\" section", some hint⟩

def sectionProblems (entries : Entries) (category : Category) : Except KeyFault (List Problem) :=
  match Entries.field? entries category.name with
  | some value => slotProblems ⟨category.name, category, value⟩
  | none => .ok [missingSection category.name]

def processorSlots (entries : Entries) : List Slot :=
  match Entries.fieldOrNull entries "pipeline" with
  | .map pipeline => fieldSlots "pipeline" .processor pipeline "processors"
  | _ => []

def unknownBuffer (name : String) : Problem :=
  ⟨"buffer." ++ name, "Unknown buffer type: \"" ++ name ++ "\"",
    some ("Valid buffer types are: " ++ ", ".intercalate Catalog.bufferNames)⟩

-- The errors of the buffer, whose type is its first key.
def bufferProblems (buffer : Value) : List Problem :=
  match buffer with
  | .map ((key, value) :: _) =>
      if isOneOf Catalog.bufferNames key then
        match Catalog.specIn? key.display .buffer with
        | some spec => componentProblems spec ("buffer." ++ key.display) value
        | none => []
      else [unknownBuffer key.display]
  | _ => []

def resourceSections : List (String × Category) := [
  ("cache_resources", .cache), ("rate_limit_resources", .rateLimit),
  ("processor_resources", .processor), ("input_resources", .input),
  ("output_resources", .output)
]

def unlabelled (name path : String) : Problem :=
  ⟨path, "Resource in " ++ name ++ " has no label",
    some "Add: label: my_resource and reference it by that label"⟩

def resourcesNotList (name : String) : Problem :=
  ⟨name, name ++ " must be a list",
    some ("Use: " ++ name ++ ": [- label: my_resource, ...]")⟩

def resourceProblems (name : String) (slot : Slot) : Except KeyFault (List Problem) :=
  let unnamed :=
    match slot.value with
    | .map entries =>
        if (Entries.fieldOrNull entries "label").isTruthy then [] else [unlabelled name slot.path]
    | _ => []
  (slotProblems slot).map (unnamed ++ ·)

def resourceSectionProblems (entries : Entries) (name : String) (category : Category) :
    Except KeyFault (List Problem) :=
  match Entries.fieldOrNull entries name with
  | .null => .ok []
  | .list items =>
      ((numbered name category 0 items).mapM (resourceProblems name)).map List.flatten
  | _ => .ok [resourcesNotList name]

def allResourceProblems (entries : Entries) : Except KeyFault (List Problem) :=
  (resourceSections.mapM fun (name, category) => resourceSectionProblems entries name category).map
    List.flatten

def documentProblems (entries : Entries) : Except KeyFault (List Problem) := do
  let input ← sectionProblems entries .input
  let output ← sectionProblems entries .output
  let processors ← slotsProblems (processorSlots entries)
  let resources ← allResourceProblems entries
  return foreignProblems entries ++ input ++ output ++ processors ++
    bufferProblems (Entries.fieldOrNull entries "buffer") ++ resources ++
    expressionProblems entries

end PipelineLint.Validation

namespace PipelineLint

open Validation

inductive Fault where
  | document (fault : Document.Fault)
  | keyNotText
  | unknownSeverity
deriving DecidableEq

structure Options where
  compatibility : Bool := true
  floor : Severity := .warning

def advice (options : Options) (entries : Entries) : Except Fault (List String) :=
  if options.compatibility then
    match Compatibility.reviewEntries entries with
    | .error .keyNotText => .error .keyNotText
    | .ok report =>
        match Report.warnings report options.floor with
        | .error .unknownSeverity => .error .unknownSeverity
        | .ok warnings => .ok warnings
  else .ok []

def diagnose (options : Options) (value : Value) : Except Fault Diagnosis :=
  match value with
  | .map entries =>
      match documentProblems entries with
      | .error .keyNotText => .error .keyNotText
      | .ok errors =>
          match advice options entries with
          | .error fault => .error fault
          | .ok warnings => .ok ⟨errors, unknownKeyWarnings entries ++ warnings⟩
  | _ => .ok { errors := [⟨rootPath, "Pipeline configuration must be an object", none⟩] }

def severalDocuments : Problem :=
  ⟨rootPath,
    "Multiple pipeline documents detected. A pipeline must be a single YAML document",
    some ("Combine all processors into one pipeline: processors: [...] array. " ++
      "Do not use --- separators")⟩

-- The one pipeline of a text, or the text itself where segments do not matter; none if there are several pipelines.
def pipelineText? (text : List Char) : Option (List Char) :=
  let segments := Document.segments text
  match segments.filter Document.isPipeline with
  | [] => some text
  | [pipeline] => some (if 1 < segments.length then pipeline else text)
  | _ => none

/-- Reads and checks a document. -/
def diagnoseText (options : Options) (text : String) : Except Fault Diagnosis :=
  match pipelineText? text.toList with
  | none => .ok { errors := [severalDocuments] }
  | some source =>
      match Document.readText source with
      | .ok value => diagnose options value
      | .error (.malformed complaint line) =>
          .ok { errors := [⟨rootPath,
            "Failed to parse YAML: " ++ Document.complaintMessage complaint line, none⟩] }
      | .error fault => .error (.document fault)

end PipelineLint
