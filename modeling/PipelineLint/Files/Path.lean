set_option autoImplicit false

namespace PipelineLint.Files

structure Path where
  -- What the path starts with if it does not start where the program runs: one slash, or two.
  root : String
  parts : List String
deriving DecidableEq

namespace Path

def splitSlashes : List Char → List (List Char)
  | [] => [[]]
  | c :: rest =>
      match splitSlashes rest with
      | [] => []
      | part :: parts => if c = '/' then [] :: part :: parts else (c :: part) :: parts

def rootOf (text : List Char) : String :=
  match (text.takeWhile (· = '/')).length with
  | 0 => ""
  | 2 => "//"
  | _ => "/"

def ofText (text : String) : Path :=
  { root := rootOf text.toList
    parts := ((splitSlashes text.toList).map String.ofList).filter fun part =>
      part != "" && part != "." }

def text (path : Path) : String :=
  match path.root, path.parts with
  | "", [] => "."
  | root, parts => root ++ "/".intercalate parts

def name (path : Path) : String :=
  path.parts.getLast?.getD ""

-- What follows the last point of a name, the point included; a point at either end of the name does not count.
def suffixOf (name : String) : String :=
  let letters := name.toList
  let tail := (letters.reverse.takeWhile (· ≠ '.')).reverse
  let before := letters.length - tail.length
  if tail ≠ [] && 1 < before then String.ofList ('.' :: tail) else ""

end Path

end PipelineLint.Files
