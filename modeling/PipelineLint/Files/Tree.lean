import PipelineLint.Files.Path
import PipelineLint.Text.Utf8

set_option autoImplicit false

namespace PipelineLint.Files

abbrev Place := List String

structure Tree where
  files : List (Place × Text.Utf8.Bytes) := []
  directories : List Place := []
  isWhole : Bool := false

inductive Node where
  | file (bytes : Text.Utf8.Bytes)
  | directory

namespace Tree

def node? (tree : Tree) (place : Place) : Option Node :=
  if place = [] || tree.directories.contains place then some .directory
  else (tree.files.lookup place).map Node.file

def addDirectory (tree : Tree) (place : Place) : Tree :=
  { tree with
    directories := ((List.range place.length).map fun n => place.take (n + 1)) ++ tree.directories }

def write (tree : Tree) (place : Place) (bytes : Text.Utf8.Bytes) : Tree :=
  let tree := tree.addDirectory place.dropLast
  { tree with files := (place, bytes) :: tree.files.filter fun file => file.1 != place }

def delete (tree : Tree) (place : Place) : Tree :=
  { tree with files := tree.files.filter fun file => file.1 != place }

theorem lookup_write (tree : Tree) (place : Place) (bytes : Text.Utf8.Bytes) :
    (tree.write place bytes).files.lookup place = some bytes := by
  simp [write]

def walk? (tree : Tree) : Place → List String → Option (Place × Node)
  | place, [] => (tree.node? place).map (place, ·)
  | place, part :: rest =>
      match tree.node? place with
      | some .directory =>
          if part ≠ ".." then tree.walk? (place ++ [part]) rest
          else if place = [] && !tree.isWhole then none
          else tree.walk? place.dropLast rest
      | _ => none

def find? (tree : Tree) (start : Place) (path : Path) : Option (Place × Node) :=
  if path.root = "" then tree.walk? start path.parts
  else if tree.isWhole then tree.walk? [] path.parts
  else none

-- The place that the parts of a path name, whether or not anything is there.
def placeOf (start : Place) (path : Path) : Place :=
  path.parts.foldl (fun place part => if part = ".." then place.dropLast else place ++ [part]) start

end Tree

end PipelineLint.Files
