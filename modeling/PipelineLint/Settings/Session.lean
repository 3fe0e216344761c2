import PipelineLint.Files.Tree
import PipelineLint.Settings.File
/-!
Loading settings over time. Files, the environment and the working directory may change between two
loads, and settings once read from a path are held: until they are forgotten, the path gives them
again, whatever has happened to the file. A load that fails leaves nothing behind.
-/

set_option autoImplicit false

namespace PipelineLint.Settings

structure World where
  tree : Files.Tree := {}
  directory : Files.Place := []
  env : Environment := []
  manifests : Yaml.Reader := Yaml.read

structure Found where
  key : Files.Path
  name : String
  node : Files.Node

namespace World

def fromRoot (place : Files.Place) : Files.Path :=
  { root := "/", parts := place }

def absolute (world : World) (path : Files.Path) : Files.Path :=
  if path.root = "" then fromRoot (world.directory ++ path.parts) else path

def find? (world : World) (path : Files.Path) : Option Found :=
  (world.tree.find? world.directory path).map fun (_, node) =>
    ⟨world.absolute path, path.name, node⟩

def require (world : World) (path : Files.Path) : Reading Found :=
  match world.find? path with
  | some found => return found
  | none => throw (.notFound path.text)

def findNamed? (world : World) : Reading (Option Found) :=
  match Environment.given? world.env settingsPathVariable with
  | none => return none
  | some text =>
      match world.find? (.ofText text) with
      | some found => return some found
      | none => do
          Reading.notice (.missingFile (Files.Path.ofText text).text)
          return none

-- The shared file of a directory, if it has a section for the program.
def sharedIn? (world : World) (directory : Files.Place) : Reading (Option Found) :=
  let place := directory ++ [sharedFile]
  match world.tree.node? place with
  | none => return none
  | some .directory => throw .directory
  | some (.file bytes) => do
      return if ← sharesSection bytes then some ⟨fromRoot place, sharedFile, .file bytes⟩ else none

def firstShared? (world : World) : List Files.Place → Reading (Option Found)
  | [] => return none
  | directory :: rest => do
      match ← world.sharedIn? directory with
      | some found => return some found
      | none => world.firstShared? rest

def directoriesUp (world : World) : List Files.Place :=
  ((List.range (world.directory.length + 1)).map fun n => world.directory.take n).reverse

def locate (world : World) (path : Option String) : Reading (Option Found) := do
  match path.filter (· != "") with
  | some text => return some (← world.require (.ofText text))
  | none =>
      match ← world.findNamed? with
      | some found => return some found
      | none =>
          match world.find? (.ofText ownFile) with
          | some found => return some found
          | none => world.firstShared? world.directoriesUp

def read (world : World) (found : Found) : Reading Settings :=
  match found.node with
  | .directory => throw .directory
  | .file bytes => ofFile world.manifests world.env found.name bytes

/-- Settings from a path or from the file that is found without one; the default ones if there is
no file. Nothing is held. -/
def load (world : World) (path : Option String) : Reading Settings := do
  match ← world.locate path with
  | some found => world.read found
  | none => byDefault world.env

end World

abbrev Held := List (Files.Path × Settings)

def mostHeld : Nat := 32

namespace Held

def get? (held : Held) (key : Files.Path) : Option Settings :=
  held.lookup key

-- Puts settings in front; the ones that were not used for the longest time give way.
def use (held : Held) (key : Files.Path) (settings : Settings) : Held :=
  ((key, settings) :: held.filter fun entry => entry.1 != key).take mostHeld

theorem get?_use (held : Held) (key : Files.Path) (settings : Settings) :
    get? (use held key settings) key = some settings := by
  simp [get?, use, mostHeld]

end Held

structure Session where
  world : World := {}
  held : Held := []

inductive Step where
  | write (path text : String)
  | delete (path : String)
  | enter (path : String)
  | setVariable (name text : String)
  | unsetVariable (name : String)
  | forget
  | load (path : Option String)
  | loadDefault

namespace Session

def readHeld (session : Session) (found : Found) : Reading (Settings × Held) :=
  match session.held.get? found.key with
  | some settings => return (settings, session.held.use found.key settings)
  | none => do
      let settings ← session.world.read found
      return (settings, session.held.use found.key settings)

def load (session : Session) (path : Option String) : Reading (Settings × Held) := do
  match ← session.world.locate path with
  | some found => session.readHeld found
  | none => return (← byDefault session.world.env, session.held)

structure Result where
  settings : Option (Except Fault Settings) := none
  notices : List Notice := []

def placeOf (path : String) : Files.Place :=
  Files.Tree.placeOf [] (.ofText path)

def run (session : Session) (step : Step) : Session × Result :=
  let world := session.world
  match step with
  | .write path text =>
      let tree := world.tree.write (placeOf path) (Text.Utf8.encode text.toList)
      ({ session with world := { world with tree } }, {})
  | .delete path =>
      ({ session with world := { world with tree := world.tree.delete (placeOf path) } }, {})
  | .enter path =>
      let place := placeOf path
      let tree := world.tree.addDirectory place
      ({ session with world := { world with tree, directory := place } }, {})
  | .setVariable name text =>
      ({ session with world := { world with env := world.env.set name text } }, {})
  | .unsetVariable name =>
      ({ session with world := { world with env := world.env.unset name } }, {})
  | .forget => ({ session with held := [] }, {})
  | .load path =>
      match (session.load path).outcome with
      | (.ok (settings, held), notices) => ({ session with held }, ⟨some (.ok settings), notices⟩)
      | (.error fault, notices) => (session, ⟨some (.error fault), notices⟩)
  | .loadDefault =>
      let (settings, notices) := (byDefault world.env).outcome
      (session, ⟨some settings, notices⟩)

def runAll : Session → List Step → List Result
  | _, [] => []
  | session, step :: rest =>
      let (next, result) := session.run step
      result :: runAll next rest

end Session

end PipelineLint.Settings
