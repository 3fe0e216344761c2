import PipelineLint.Catalog.Names

set_option autoImplicit false

namespace PipelineLint

-- A key that is no text stands where the type of a component is looked for.
inductive KeyFault where
  | keyNotText
deriving DecidableEq

namespace Catalog

def firstType? : List Scalar → Except KeyFault (Option String)
  | [] => .ok none
  | .str key :: rest => if isMetadata key then firstType? rest else .ok (some key)
  | _ :: _ => .error .keyNotText

/-- The type of a component. A mapping whose keys are all metadata, `processors` among them, is the
component of that name. -/
def componentType (entries : Entries) : Except KeyFault (Option String) :=
  match firstType? (Entries.keys entries) with
  | .error fault => .error fault
  | .ok (some key) => .ok (some key)
  | .ok none => .ok (if Entries.hasField entries "processors" then some "processors" else none)

end Catalog

end PipelineLint
