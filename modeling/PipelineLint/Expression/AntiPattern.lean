import PipelineLint.Expression.Mask
import PipelineLint.Expression.Pattern
import PipelineLint.Finding

set_option autoImplicit false

namespace PipelineLint.Expression

-- A mistake that can be seen from the text alone. Raw ones are looked for inside string literals and comments too.
structure AntiPattern where
  rule : String
  pattern : Pattern
  message : String
  suggestion : String
  claims : List String := []
  raw : Bool := false

def AntiPattern.fires (mistake : AntiPattern) (text : List Char) : Bool :=
  mistake.pattern.occurs (if mistake.raw then text else mask text)

def AntiPattern.finding (mistake : AntiPattern) (location : String) : Finding :=
  ⟨mistake.rule, .error, mistake.message, location, some mistake.suggestion⟩

namespace AntiPattern

open Pattern

def dropHint : String := "Use: root = deleted() to drop messages"

def letHint : String := "Use: let my_var = value"

def formatHint : String :=
  "Use: \"%s-%s\".format(a, b) or concatenation: a + \"-\" + b"

def branchHint : String := "Use: if condition \x7b value \x7d else \x7b other_value \x7d"

def parallelHint : String :=
  "Use pipeline-level parallelism (threads, parallel processors) for concurrency"

def namedMapHint : String := ", or a named map with: map name \x7b ... \x7d"

def called (name : String) : Pattern :=
  sequence [freshName, exactly name, blanks, exactly "("]

def methodCalled (name : String) : Pattern :=
  sequence [exactly ".", blanks, exactly name, blanks, exactly "("]

def declared (keyword : String) : Pattern :=
  sequence [freshName, exactly keyword, someBlanks, word, blanks, exactly "="]

def keywordBefore (keyword : String) (test : Char → Bool) : Pattern :=
  sequence [freshName, exactly keyword, someBlanks, .one test]

def fromJson : AntiPattern where
  rule := "B101"
  pattern := called "from_json"
  message := "Invalid function \"from_json()\". This is not Bloblang syntax"
  suggestion := "Use method syntax: this.parse_json() or this.value.parse_json()"
  claims := ["from_json"]

def toJson : AntiPattern where
  rule := "B102"
  pattern := called "to_json"
  message := "Invalid function \"to_json()\". This is not Bloblang syntax"
  suggestion := "Use method syntax: this.format_json()"
  claims := ["to_json"]

def jsonObject : AntiPattern where
  rule := "B103"
  pattern := sequence [wordEdge, exactly "JSON", blanks, exactly ".", blanks,
    choice [exactly "parse", exactly "stringify"], blanks, exactly "("]
  message := "Invalid JavaScript JSON.parse()/JSON.stringify()"
  suggestion := "Use this.parse_json() to parse and this.format_json() to serialize"
  claims := ["parse", "stringify"]

def ifThen : AntiPattern where
  rule := "B104"
  pattern := sequence [wordEdge, exactly "if", wordEdge, .many fun c => c ≠ '\n' && c ≠ '\x7b',
    wordEdge, exactly "then", wordEdge]
  message := "Invalid \"if...then\" syntax. Bloblang does not use the \"then\" keyword"
  suggestion := branchHint

def bareElse : AntiPattern where
  rule := "B105"
  pattern := sequence [wordEdge, exactly "else", blanks, optional (exactly ":"), blanks, lineEnd]
  message := "Invalid standalone \"else\". Bloblang else branches need braces"
  suggestion := branchHint

def nullRoot : AntiPattern where
  rule := "B106"
  pattern := sequence [freshName, exactly "root", blanks, exactly "=", notBefore (· = '='), blanks,
    choice (["null", "None", "nil", "NIL", "Nil"].map exactly), wordEdge]
  message := "Assigning null/nil/None to root does not drop the message"
  suggestion := dropHint

def returned : AntiPattern where
  rule := "B107"
  pattern := keywordBefore "return" fun c => !Text.isBlank c
  message := "Invalid \"return\" statement. Bloblang does not use return"
  suggestion := "Assign directly to root: root = <value>"

def functionDefinition : AntiPattern where
  rule := "B108"
  pattern := sequence [wordEdge, exactly "function", someBlanks, word, blanks, exactly "("]
  message := "Invalid function definition. Bloblang does not support inline functions"
  suggestion := "Use mapping expressions directly" ++ namedMapHint

def varDeclaration : AntiPattern where
  rule := "B109"
  pattern := declared "var"
  message := "Invalid \"var\" declaration. Bloblang uses \"let\" for variables"
  suggestion := letHint

def constDeclaration : AntiPattern where
  rule := "B110"
  pattern := declared "const"
  message := "Invalid \"const\" declaration. Bloblang uses \"let\" for variables"
  suggestion := letHint

def arrowFunction : AntiPattern where
  rule := "B111"
  pattern := sequence [exactly ".", blanks,
    choice (["map", "filter", "find", "some", "every", "map_each"].map exactly), blanks, exactly "(",
    blanks, optional (exactly "("), blanks, word, blanks, optional (exactly ")"), blanks,
    exactly "=>"]
  message := "Invalid JavaScript-style arrow function"
  suggestion := "Use Bloblang lambdas: this.items.map_each(item -> item.field)"
  claims := ["map", "find", "some", "every"]

def forEachCall : AntiPattern where
  rule := "B112"
  pattern := methodCalled "forEach"
  message := "Invalid JavaScript-style .forEach()"
  suggestion := "Use: this.items.map_each(item -> item.transform())"
  claims := ["forEach"]

def reduceCall : AntiPattern where
  rule := "B113"
  pattern := methodCalled "reduce"
  message := "Invalid JavaScript-style .reduce()"
  suggestion := "Use: this.items.fold(0, item -> item.tally + item.value)"
  claims := ["reduce"]

def variableInterpolation : AntiPattern where
  rule := "B114"
  pattern := sequence [exactly "$\x7b", blanks, word, blanks, exactly "\x7d"]
  message :=
    "Invalid $\x7bvar\x7d interpolation inside a mapping. It only works in config strings"
  suggestion := "Reference the value directly: $my_var, this.field or @metadata_key"
  raw := true

def templateLiteral : AntiPattern where
  rule := "B115"
  pattern := sequence [exactly "`", .many fun c => c.toNat ≠ 96, exactly "$\x7b"]
  message := "Invalid JavaScript template literal"
  suggestion := formatHint
  raw := true

def formattedString : AntiPattern where
  rule := "B116"
  pattern := sequence [notAfter fun c => Text.isWord c || c = '"' || c = '\'', exactly "f",
    .one fun c => c = '"' || c = '\'', .many fun c => c ≠ '"' && c ≠ '\'' && c ≠ '\n',
    exactly "\x7b"]
  message := "Invalid Python f-string"
  suggestion := formatHint
  raw := true

def asyncKeyword : AntiPattern where
  rule := "B117"
  pattern := keywordBefore "async" Text.isWord
  message := "Invalid \"async\" keyword. Bloblang is synchronous"
  suggestion := parallelHint

def awaitKeyword : AntiPattern where
  rule := "B118"
  pattern := keywordBefore "await" Text.isWord
  message := "Invalid \"await\" keyword. Bloblang is synchronous"
  suggestion := parallelHint

def forLoop : AntiPattern where
  rule := "B119"
  pattern := sequence [freshName, exactly "for", someBlanks, word, someBlanks, exactly "in",
    wordEdge]
  message := "Invalid \"for x in items\" loop"
  suggestion :=
    "Use: this.items.map_each(x -> x.field) or this.items.filter(x -> x.active)"

def moduleImport : AntiPattern where
  rule := "B120"
  pattern := sequence [lineStart, blanks, choice [
    sequence [exactly "import", someBlanks, .one fun c => Text.isNameStart c || c = '\x7b' || c = '*'],
    sequence [exactly "from", someBlanks, atLeastOne fun c => Text.isWord c || c = '.', someBlanks,
      exactly "import", wordEdge]]]
  message := "Invalid Python/JavaScript import. Bloblang only imports mapping files by path"
  suggestion := "Define logic inline, or use: import \"./mappings.blobl\""

def classDefinition : AntiPattern where
  rule := "B121"
  pattern := sequence [lineStart, blanks, exactly "class", someBlanks, word]
  message := "Invalid \"class\" definition. Bloblang is not object-oriented"
  suggestion := "Use mapping expressions and let variables"

def defDefinition : AntiPattern where
  rule := "B122"
  pattern := sequence [freshName, exactly "def", someBlanks, word, blanks, exactly "("]
  message := "Invalid Python function definition"
  suggestion := "Use inline expressions" ++ namedMapHint

def lambdaKeyword : AntiPattern where
  rule := "B123"
  pattern := keywordBefore "lambda" Text.isWord
  message := "Invalid Python \"lambda\""
  suggestion := "Use Bloblang lambdas: x -> x.field"

def all : List AntiPattern := [
  fromJson, toJson, jsonObject, ifThen, bareElse, nullRoot, returned, functionDefinition,
  varDeclaration, constDeclaration, arrowFunction, forEachCall, reduceCall, variableInterpolation,
  templateLiteral, formattedString, asyncKeyword, awaitKeyword, forLoop, moduleImport,
  classDefinition, defDefinition, lambdaKeyword
]

end AntiPattern

end PipelineLint.Expression
