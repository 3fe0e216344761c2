import PipelineLint.Document.Line

set_option autoImplicit false

namespace PipelineLint.Document

def isSeparator (line : List Char) : Bool :=
  startsMark ['-', '-', '-'] (Text.trimRight line)

def splitRuns : List (List Char) → List (List (List Char))
  | [] => [[]]
  | line :: rest =>
      if isSeparator line then [] :: splitRuns rest
      else
        match splitRuns rest with
        | [] => [[line]]
        | run :: runs => (line :: run) :: runs

def segments (text : List Char) : List (List Char) :=
  ((splitRuns (Text.splitLines text)).filter fun run => run.any fun line => !Text.allBlank line).map
    Text.joinFeeds

def pipelineSections : List String := ["input", "output", "pipeline"]

def startsSection (text : List Char) (word : String) : Bool :=
  word.toList.isPrefixOf text &&
    ((text.drop word.toList.length).dropWhile Text.isBlank).head? = some ':'

def hasSection : (atStart : Bool) → List Char → Bool
  | _, [] => false
  | atStart, c :: rest =>
      (atStart && pipelineSections.any (startsSection (c :: rest))) || hasSection (c = '\n') rest

def isPipeline (text : List Char) : Bool :=
  hasSection true text

def countPipelines (text : List Char) : Nat :=
  (segments text).countP isPipeline

end PipelineLint.Document
