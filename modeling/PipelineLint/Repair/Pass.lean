import PipelineLint.Expression.Lint
import PipelineLint.Repair.Fix
import PipelineLint.Repair.Sites

set_option autoImplicit false

namespace PipelineLint.Repair

def replaceRange (start stop : Nat) (name : String) (line : List Char) : List Char :=
  line.take start ++ name.toList ++ line.drop stop

def renameKey (lines : Lines) (site : KeySite) (name : String) : Lines :=
  lines.modify site.line (replaceRange site.column site.stop name)

def renameCall (call : CallPlace) (name : String) (lines : Lines) : Lines :=
  lines.modify call.line (replaceRange call.start call.stop name)

def Sites.pipelineKeys (sites : Sites) : List KeySite :=
  sites.keys.filter fun site => decide (site.above = [.key "pipeline"])

-- Renames the first key below `pipeline` that is written in place of `processors`, unless that key is there too.
def fixOutline (lines : Lines) : Lines × List Fix :=
  let keys := (sites lines).pipelineKeys
  if keys.any (·.key == Catalog.processorsKey) then (lines, [])
  else
    match keys.find? fun site => Catalog.processorsSynonyms.contains site.key with
    | none => (lines, [])
    | some site =>
        (renameKey lines site Catalog.processorsKey,
          [.sure .outline site.key Catalog.processorsKey site.line])

def misnamedComponents (lines : Lines) : List (KeySite × String) :=
  (sites lines).components.filterMap fun (site, category) =>
    ((Catalog.resolveComponent site.key category).bind Resolution.replacement?).map (site, ·)

def fixComponents (lines : Lines) : Lines × List Fix :=
  let found := misnamedComponents lines
  (found.foldl (fun lines (site, name) => renameKey lines site name) lines,
    found.map fun (site, name) => .sure .component site.key name site.line)

def resolveMisnamed (name : String) (kind : CallKind) : Option Resolution :=
  (Expression.classify name kind).resolution?

def misnamedCalls (kind : CallKind) (lines : Lines) : List (CallPlace × String) :=
  ((sites lines).calls kind lines).filterMap fun call =>
    ((resolveMisnamed call.name kind).bind Resolution.replacement?).map (call, ·)

-- Renames the calls of a kind whose names have a sure replacement. The last call of a line is renamed first, so the places of
-- the others stay right.
def fixCalls (kind : CallKind) (lines : Lines) : Lines × List Fix :=
  let found := misnamedCalls kind lines
  (found.foldr (fun (call, name) lines => renameCall call name lines) lines,
    found.map fun (call, name) => .sure (.call kind) call.name name call.line)

def rules : List (Lines → Lines × List Fix) :=
  [fixOutline, fixComponents, fixCalls .method, fixCalls .function]

def pass (lines : Lines) : Lines × List Fix :=
  rules.foldl
    (fun (lines, fixes) rule =>
      let (next, more) := rule lines
      (next, fixes ++ more))
    (lines, [])

end PipelineLint.Repair
