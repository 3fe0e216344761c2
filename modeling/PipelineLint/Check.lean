import PipelineLint.Repair
import PipelineLint.Settings.Basic
import PipelineLint.Validation.Pipeline

set_option autoImplicit false

namespace PipelineLint

structure Check where
  diagnosis : Diagnosis
  repaired : Option Repaired := none

def Settings.options (settings : Settings) : Options :=
  { compatibility := settings.compatibility, floor := settings.floor }

def Settings.repair? (settings : Settings) (text : String) : Option Repaired :=
  if settings.repairs then some (repairWithin settings.passLimit text) else none

def checkedText (text : String) (repaired : Option Repaired) : String :=
  (repaired.map Repaired.text).getD text

def check (settings : Settings) (text : String) : Except Fault Check :=
  let repaired := settings.repair? text
  match diagnoseText settings.options (checkedText text repaired) with
  | .ok diagnosis => .ok { diagnosis, repaired }
  | .error fault => .error fault

namespace Check

-- What a check says of the repair: the new text and the corrections if there are any, and the suggestions if there are any.
def repairEntries (repaired : Repaired) : Entries :=
  let changes :=
    if repaired.isModified then
      [(.str "fixed_yaml", .str repaired.text),
        (.str "fixes_applied", .list (repaired.descriptions.map Value.str))]
    else []
  let suggestions :=
    if repaired.suggestions.isEmpty then []
    else
      [(.str "suggested_fixes",
        .list (repaired.suggestions.map fun fix => .map fix.toEntries))]
  changes ++ suggestions

def toEntries (check : Check) : Entries :=
  check.diagnosis.toEntries ++ (check.repaired.map repairEntries).getD []

end Check

end PipelineLint
