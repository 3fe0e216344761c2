import PipelineLint.Value.Basic

set_option autoImplicit false

namespace PipelineLint.Toml

abbrev Path := List String

inductive Mark where
  | declared
  | frozen
deriving DecidableEq

abbrev Marks := List (Path × Mark)

namespace Marks

def isDeclared (marks : Marks) (path : Path) : Bool :=
  marks.contains (path, .declared)

def isFrozen (marks : Marks) (path : Path) : Bool :=
  marks.any fun (held, mark) => decide (mark = .frozen) && held.isPrefixOf path

def forget (marks : Marks) (path : Path) : Marks :=
  marks.filter fun (held, _) => !path.isPrefixOf held

end Marks

-- Changes the table at a path; tables that are missing on the way are put in. Where a list of tables stands on the way, its
-- last table counts, if `throughLists` allows it. None if something that is no table is in the way.
def alterTable (throughLists : Bool) (change : Entries → Option Entries) :
    Path → Entries → Option Entries
  | [], table => change table
  | name :: path, table =>
      let put (value : Value) := Entries.put table (.str name) value
      match Entries.field? table name with
      | none => (alterTable throughLists change path []).map fun inner => put (.map inner)
      | some (.map inner) =>
          (alterTable throughLists change path inner).map fun inner => put (.map inner)
      | some (.list items) =>
          match items.getLast? with
          | some (.map inner) =>
              if throughLists then
                (alterTable throughLists change path inner).map fun inner =>
                  put (.list (items.dropLast ++ [.map inner]))
              else none
          | _ => none
      | some _ => none

def putNew (name : String) (value : Value) (table : Entries) : Option Entries :=
  if Entries.hasField table name then none else some (Entries.put table (.str name) value)

def addTable (name : String) (table : Entries) : Option Entries :=
  match Entries.field? table name with
  | none => some (Entries.put table (.str name) (.list [.map []]))
  | some (.list items) => some (Entries.put table (.str name) (.list (items ++ [.map []])))
  | some _ => none

def splitLast? (path : Path) : Option (Path × String) :=
  path.getLast?.map fun name => (path.dropLast, name)

structure Draft where
  table : Entries := []
  marks : Marks := []
  pending : List Path := []
  header : Path := []

namespace Draft

-- Makes the pending paths count.
def settle (draft : Draft) : Draft :=
  { draft with
    marks := draft.marks ++ draft.pending.map fun path => (path, .declared)
    pending := [] }

def openTable? (draft : Draft) (path : Path) : Option Draft :=
  if draft.marks.isDeclared path || draft.marks.isFrozen path then none
  else
    (alterTable true some path draft.table).map fun table =>
      { draft with table, marks := (path, .declared) :: draft.marks, header := path }

def openItem? (draft : Draft) (path : Path) : Option Draft := do
  if draft.marks.isFrozen path then none
  let (above, name) ← splitLast? path
  let table ← alterTable true (addTable name) above draft.table
  return { draft with
    table, marks := (path, .declared) :: draft.marks.forget path, header := path }

-- The paths between the open table and the value of a key.
def pathsBetween (header key : Path) : List Path :=
  (List.range (key.length - 1)).map fun n => header ++ key.take (n + 1)

def isComplete : Value → Bool
  | .list _ => true
  | .map _ => true
  | _ => false

def put? (draft : Draft) (key : Path) (value : Value) : Option Draft := do
  let (above, name) ← splitLast? key
  let between := pathsBetween draft.header key
  if between.any draft.marks.isDeclared then none
  if draft.marks.isFrozen (draft.header ++ above) then none
  let table ← alterTable true (putNew name value) (draft.header ++ above) draft.table
  let frozen := if isComplete value then [(draft.header ++ key, Mark.frozen)] else []
  return { draft with
    table
    marks := frozen ++ draft.marks
    pending := draft.pending ++ between }

end Draft

structure InlineDraft where
  table : Entries := []
  marks : Marks := []

def InlineDraft.put? (draft : InlineDraft) (key : Path) (value : Value) : Option InlineDraft := do
  if draft.marks.isFrozen key then none
  let (above, name) ← splitLast? key
  let table ← alterTable false (putNew name value) above draft.table
  let frozen := if Draft.isComplete value then [(key, Mark.frozen)] else []
  return { table, marks := frozen ++ draft.marks }

end PipelineLint.Toml
