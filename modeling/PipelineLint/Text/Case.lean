import PipelineLint.Text.CaseTable
import PipelineLint.Text.Blank

set_option autoImplicit false

namespace PipelineLint.Text

def isCased (c : Char) : Bool :=
  if c.toNat < 128 then c.isAlpha else inRanges casedRanges c.toNat

def isCaseIgnorable (c : Char) : Bool :=
  if c.toNat < 128 then ['\'', '.', ':', '^', Char.ofNat 96].contains c
  else inRanges caseIgnorableRanges c.toNat

-- The image of a character above the ASCII range under the given tables.
def convertChar (specials : List (Nat × List Nat)) (runs : List CaseRun) (c : Char) : List Char :=
  match specials.lookup c.toNat with
  | some codes => codes.map Char.ofNat
  | none => [((CaseRun.map? runs c.toNat).map Char.ofNat).getD c]

def lowerChar (c : Char) : List Char :=
  if c.toNat < 128 then [c.toLower] else convertChar lowerSpecials lowerRuns c

def upperChar (c : Char) : List Char :=
  if c.toNat < 128 then [c.toUpper] else convertChar upperSpecials upperRuns c

-- Lower case of what follows, given whether the nearest letter before it is cased.
def lowerAfter : (afterCased : Bool) → List Char → List Char
  | _, [] => []
  | afterCased, c :: rest =>
      let image :=
        if c = 'Σ' then
          let beforeCased := ((rest.dropWhile isCaseIgnorable).head?.map isCased).getD false
          if afterCased && !beforeCased then ['ς'] else ['σ']
        else lowerChar c
      image ++ lowerAfter (if isCaseIgnorable c then afterCased else isCased c) rest

def lower (text : List Char) : List Char :=
  lowerAfter false text

def upper (text : List Char) : List Char :=
  text.flatMap upperChar

end PipelineLint.Text

namespace PipelineLint

def lowered (text : String) : String :=
  String.ofList (Text.lower text.toList)

def uppered (text : String) : String :=
  String.ofList (Text.upper text.toList)

end PipelineLint
