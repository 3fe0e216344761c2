import PipelineLint.Number.Numeral
import PipelineLint.Repair.Pass
/-!
Repair of a document: passes over its lines until one of them changes nothing or the limit is
reached. What looks wrong in the result but is not sure enough to be changed is suggested.
-/

set_option autoImplicit false

namespace PipelineLint

structure Repaired where
  text : String
  fixes : List Repair.Fix
  suggestions : List Repair.Fix
  -- The number of passes, the one that changed nothing included.
  passes : Nat

namespace Repaired

def isModified (repaired : Repaired) : Bool :=
  !repaired.fixes.isEmpty

def descriptions (repaired : Repaired) : List String :=
  Name.distinct (repaired.fixes.map Repair.Fix.describe)

end Repaired

namespace Repair

-- Runs passes, at most `limit`, until one changes nothing: the lines, the corrections and the number of passes.
def passes : (limit : Nat) → Lines → Lines × List Fix × Nat
  | 0, lines => (lines, [], 0)
  | limit + 1, lines =>
      match pass lines with
      | (next, []) => (next, [], 1)
      | (next, fixes) =>
          let (last, more, count) := passes limit next
          (last, fixes ++ more, count + 1)

def suggestion? (kind : FixKind) (name : String) (resolution : Option Resolution) (line : Nat) :
    Option Fix :=
  match resolution with
  | none => none
  | some resolution =>
      if resolution.candidates.isEmpty || resolution.replacement?.isSome then none
      else
        some ⟨kind, kind.decorate name, resolution.candidates, resolution.confidence,
          some (line + 1 : Nat), resolution.reason⟩

def componentSuggestions (sites : Sites) : List Fix :=
  sites.components.filterMap fun (site, category) =>
    suggestion? .component site.key (Catalog.resolveComponent site.key category) site.line

def callSuggestions (sites : Sites) (lines : Lines) (kind : CallKind) : List Fix :=
  (sites.calls kind lines).filterMap fun call =>
    suggestion? (.call kind) call.name (resolveMisnamed call.name kind) call.line

def sayTheSame (a b : Fix) : Bool :=
  decide (a.kind = b.kind) && a.found == b.found && a.candidates == b.candidates

def withoutRepeats : List Fix → List Fix
  | [] => []
  | fix :: rest => fix :: (withoutRepeats rest).filter fun other => !sayTheSame fix other

def suggestions (lines : Lines) : List Fix :=
  let sites := sites lines
  withoutRepeats
    (componentSuggestions sites ++
      [CallKind.method, .function].flatMap (callSuggestions sites lines))

-- The limit on passes that holds if none is given.
def defaultLimit : Int := 10

structure LimitFault where
  limit : Int
deriving DecidableEq

def LimitFault.message (fault : LimitFault) : String :=
  "max_iterations must be at least 1, got " ++ String.ofList (Numeral.intText fault.limit)

end Repair

open Repair

/-- Repairs a document in at most `limit` passes. -/
def repairWithin (limit : Nat) (text : String) : Repaired :=
  let (lines, fixes, count) := passes limit (Text.splitFeeds text.toList)
  ⟨String.ofList (Text.joinFeeds lines), fixes, suggestions lines, count⟩

def repair (text : String) (limit : Int) : Except LimitFault Repaired :=
  if limit < 1 then .error ⟨limit⟩ else .ok (repairWithin limit.toNat text)

end PipelineLint
