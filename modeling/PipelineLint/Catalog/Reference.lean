import PipelineLint.Catalog.Registry
import PipelineLint.Json.Writer

set_option autoImplicit false

namespace PipelineLint

def inlineText : Value → String
  | .str s => s
  | other => Json.compact other

def codeText (text : String) : String :=
  "`" ++ text ++ "`"

def dropTrailingText (drops : Char → Bool) (text : String) : String :=
  String.ofList (Text.dropTrailing drops text.toList)

namespace FieldSpec

def remarks (spec : FieldSpec) : List String :=
  (if spec.required then ["required"] else []) ++
    (if spec.defaultValue.isNull then []
     else ["default: " ++ codeText (inlineText spec.defaultValue)]) ++
    (if spec.enum.isEmpty then [] else ["one of: " ++ ", ".intercalate (spec.enum.map codeText)])

def headline (depth : Nat) (name : String) (spec : FieldSpec) : String :=
  let label := if name = "" then "*(value)*" else codeText name
  let remarks := spec.remarks
  let detail := if remarks.isEmpty then "" else " (" ++ "; ".intercalate remarks ++ ")"
  dropTrailingText (fun c => c = ':' || c = ' ')
    (String.ofList (List.replicate (2 * depth) ' ') ++ "- " ++ label ++ " *" ++ spec.kind.name ++
      "*" ++ detail ++ ": " ++ spec.description)

mutual

def describe (depth : Nat) (name : String) : FieldSpec → List String
  | ⟨kind, description, required, defaultValue, enum, items, properties, examples⟩ =>
      headline depth name
          ⟨kind, description, required, defaultValue, enum, items, properties, examples⟩ ::
        describeAll (depth + 1) properties ++ describeItems (depth + 1) items
termination_by structural spec => spec

def describeItems (depth : Nat) : Option FieldSpec → List String
  | none => []
  | some ⟨_, _, _, _, _, _, properties, _⟩ => describeAll depth properties
termination_by structural items => items

def describeAll (depth : Nat) : List (String × FieldSpec) → List String
  | [] => []
  | (name, spec) :: rest => describe depth name spec ++ describeAll depth rest
termination_by structural fields => fields

end

mutual

-- A field specification as a value, without what it leaves out.
def toValue : FieldSpec → Value
  | ⟨kind, description, required, defaultValue, enum, items, properties, examples⟩ =>
      .map ([
          (.str "type", .str kind.name),
          (.str "description", .str description),
          (.str "required", .bool required)] ++
        (if defaultValue.isNull then [] else [(.str "default", defaultValue)]) ++
        (if enum.isEmpty then [] else [(.str "enum", .list (enum.map Value.str))]) ++
        itemsToValue items ++
        (match propertiesToValue properties with
          | [] => []
          | entries => [(.str "properties", .map entries)]) ++
        [(.str "examples", .list examples)])
termination_by structural spec => spec

def itemsToValue : Option FieldSpec → Entries
  | none => []
  | some spec => [(.str "items", toValue spec)]
termination_by structural items => items

def propertiesToValue : List (String × FieldSpec) → Entries
  | [] => []
  | (name, spec) :: rest => (.str name, toValue spec) :: propertiesToValue rest
termination_by structural fields => fields

end

end FieldSpec

namespace ComponentSpec

def toValue (spec : ComponentSpec) : Value :=
  .map [
    (.str "name", .str spec.name),
    (.str "category", .str spec.category.name),
    (.str "description", .str spec.description),
    (.str "fields", .map (FieldSpec.propertiesToValue spec.fields)),
    (.str "examples", .list (spec.examples.map Value.str)),
    (.str "docs_url", (spec.docs.map Value.str).getD .null)]

def page (spec : ComponentSpec) : String :=
  let fields :=
    if spec.fields.isEmpty then []
    else ["## Fields", ""] ++ FieldSpec.describeAll 0 spec.fields ++ [""]
  let examples := spec.examples.flatMap fun usage =>
    ["## Example", "", "```yaml", dropTrailingText Text.isBlank usage, "```", ""]
  let docs :=
    match spec.docs with
    | some url => if url = "" then [] else ["Documentation: " ++ url]
    | none => []
  let lines :=
    ["# " ++ spec.name ++ " (" ++ spec.category.name ++ ")", "", spec.description, ""] ++ fields ++
      examples ++ docs
  dropTrailingText Text.isBlank ("\n".intercalate lines) ++ "\n"

def summary (spec : ComponentSpec) : Value :=
  .map [
    (.str "name", .str spec.name),
    (.str "category", .str spec.category.name),
    (.str "description", .str spec.description)]

end ComponentSpec

namespace Catalog

def describe (name : String) (scope : Scope) : Except UnknownComponent String :=
  (requireSpec name scope).map ComponentSpec.page

def namesValue (scope : Scope) : Value :=
  .map ((listNames scope).map fun (category, names) =>
    (.str category, .list (names.map Value.str)))

end Catalog

namespace Builtin

def call (item : Builtin) : String :=
  match item.kind with
  | .method => "." ++ item.signature
  | .function => item.signature

def toValue (item : Builtin) : Value :=
  .map [
    (.str "name", .str item.name),
    (.str "kind", .str item.kind.name),
    (.str "category", .str item.category),
    (.str "signature", .str item.signature),
    (.str "description", .str item.description),
    (.str "example", .str item.usage)]

def referenceLines (item : Builtin) : List String :=
  ["## " ++ item.name,
    "Type: " ++ item.kind.name ++ " | Category: " ++ item.category,
    "Signature: " ++ codeText item.call,
    item.description] ++
  (if item.usage = "" then [] else ["Example: " ++ codeText item.usage]) ++ [""]

def reference (items : List Builtin) : String :=
  "\n".intercalate (items.flatMap referenceLines)

end Builtin

end PipelineLint
