import PipelineLint.CommandLine.Run

set_option autoImplicit false

namespace PipelineLint.Machine

def pathOf (place : Files.Place) : String :=
  "/" ++ "/".intercalate place

def placeFrom (directory : Files.Place) (text : String) : Files.Place :=
  let path := Files.Path.ofText text
  Files.Tree.placeOf (if path.root = "" then directory else []) path

def pathsIn (word : String) : List String :=
  [word, String.ofList ((word.toList.dropWhile (· ≠ '=')).drop 1)]

def places (world : Settings.World) (words : List String) : List Files.Place :=
  let named := (Environment.given? world.env settingsPathVariable).toList
  (words.flatMap pathsIn ++ named ++ [Settings.ownFile]).map (placeFrom world.directory) ++
    world.directoriesUp.map fun directory => directory ++ [Settings.sharedFile]

def load (tree : Files.Tree) (place : Files.Place) : IO Files.Tree := do
  let path := (← IO.currentDir) / pathOf place
  if ← path.isDir then return tree.addDirectory place
  try
    let bytes ← IO.FS.readBinFile path
    return tree.write place bytes.toList
  catch _ => return tree

def variablesOf (block : Text.Utf8.Bytes) : Environment :=
  (block.splitOn 0).filterMap fun bytes =>
    let text := Text.Utf8.decodeLossy bytes
    let name := text.takeWhile (· ≠ '=')
    if name.isEmpty then none
    else some (String.ofList name, String.ofList (text.drop (name.length + 1)))

def environment : IO Environment := do
  try
    return variablesOf (← IO.FS.readBinFile "/proc/self/environ").toList
  catch _ => return []

def world (words : List String) : IO Settings.World := do
  let directory := (Files.Path.ofText (← IO.currentDir).toString).parts
  let tree : Files.Tree := { isWhole := true }
  let start : Settings.World :=
    { tree := tree.addDirectory directory, directory, env := ← environment }
  return { start with tree := ← (places start words).foldlM load start.tree }

def store (before after : Files.Tree) : IO Unit :=
  after.files.forM fun (place, bytes) => do
    if before.files.lookup place ≠ some bytes then
      IO.FS.writeBinFile (pathOf place) ⟨bytes.toArray⟩

def run (words : List String) : IO UInt32 := do
  let world ← world words
  let outcome := CommandLine.run world (.failed "ConnectError" "no network") words
  store world.tree outcome.tree
  (← IO.getStdout).putStr outcome.printed
  let errors ← IO.getStderr
  outcome.notices.forM fun notice => errors.putStrLn notice.message
  if let some fault := outcome.complaint then errors.putStrLn fault.message
  if let some failure := outcome.failure then errors.putStrLn failure.message
  return UInt32.ofNat outcome.status

end PipelineLint.Machine

def main (words : List String) : IO UInt32 :=
  PipelineLint.Machine.run words
