import PipelineLint.CommandLine.Words

set_option autoImplicit false

namespace PipelineLint.CommandLine

def helpOption : OptionSpec := { long := "help" }

def globalOptions : List OptionSpec := [
  { long := "quiet", letter := 'q' },
  { long := "verbose", letter := 'V' },
  { long := "config", valued := true },
  { long := "version", letter := 'v' },
  helpOption]

inductive Command where
  | validate
  | fix
  | schema
  | components
  | bloblang
deriving DecidableEq

namespace Command

def all : List Command := [.validate, .fix, .schema, .components, .bloblang]

def name : Command → String
  | .validate => "validate"
  | .fix => "fix"
  | .schema => "schema"
  | .components => "components"
  | .bloblang => "bloblang"

def ofName? (name : String) : Option Command :=
  all.find? (·.name == name)

def purpose : Command → String
  | .validate => "Validate a pipeline file"
  | .fix => "Apply high-confidence fixes to a pipeline file"
  | .schema => "Show the field schema of a component"
  | .components => "List known components"
  | .bloblang => "Look up Bloblang functions and methods"

def formatOption : OptionSpec := { long := "format", letter := 'f', valued := true }

def categoryOption : OptionSpec := { long := "category", letter := 'c', valued := true }

def options : Command → List OptionSpec
  | .validate =>
      [{ long := "fix" }, formatOption, { long := "no-compat" }, { long := "external" }, helpOption]
  | .fix => [{ long := "write", letter := 'w' }, formatOption, helpOption]
  | .schema => [categoryOption, formatOption, helpOption]
  | .components =>
      [categoryOption, { long := "search", letter := 's', valued := true }, formatOption, helpOption]
  | .bloblang => [categoryOption, formatOption, helpOption]

def usage : Command → String
  | .validate => "validate FILE [--fix] [--format text|json] [--no-compat] [--external]"
  | .fix => "fix FILE [--write] [--format text|json]"
  | .schema => "schema NAME [--category CATEGORY] [--format text|json]"
  | .components => "components [--category CATEGORY] [--search TEXT] [--format text|json]"
  | .bloblang => "bloblang [QUERY] [--category CATEGORY] [--format text|json]"

end Command

-- A command with its arguments. A format is not looked at before the command runs.
inductive Request where
  | help (command : Command)
  | validate (file : String) (repairs : Bool) (format : String) (compatibility service : Bool)
  | fix (file : String) (write : Bool) (format : String)
  | schema (name : String) (category : Option String) (format : String)
  | components (category search : Option String) (format : String)
  | bloblang (query category : Option String) (format : String)

namespace Request

def textFormat : String := "text"

def jsonFormat : String := "json"

def oneWord (name : String) : List String → Except UsageFault String
  | [] => .error (.missingArgument name)
  | [word] => .ok word
  | _ :: extra :: _ => .error (.extraArgument extra)

def upToOneWord : List String → Except UsageFault (Option String)
  | [] => .ok none
  | [word] => .ok (some word)
  | _ :: extra :: _ => .error (.extraArgument extra)

def noWord : List String → Except UsageFault Unit
  | [] => .ok ()
  | extra :: _ => .error (.extraArgument extra)

def ofItems (command : Command) (items : List Item) : Except UsageFault Request :=
  let words := Item.words items
  let format := (Item.value? items "format").getD textFormat
  let category := Item.value? items "category"
  if Item.hasFlag items "help" then .ok (.help command)
  else
    match command with
    | .validate =>
        (oneWord "PIPELINE_FILE" words).map fun file =>
          .validate file (Item.hasFlag items "fix") format (!Item.hasFlag items "no-compat")
            (Item.hasFlag items "external")
    | .fix =>
        (oneWord "PIPELINE_FILE" words).map fun file =>
          .fix file (Item.hasFlag items "write") format
    | .schema => (oneWord "NAME" words).map fun name => .schema name category format
    | .components =>
        (noWord words).map fun _ => .components category (Item.value? items "search") format
    | .bloblang => (upToOneWord words).map fun query => .bloblang query category format

def ofWords (command : Command) (words : List String) : Except UsageFault Request :=
  match readWords command.options true words with
  | .ok items => ofItems command items
  | .error fault => .error fault

end Request

inductive Opening where
  | help
  | version
  | command (command : Command) (settingsPath : Option String) (words : List String)

def Opening.ofWords (words : List String) : Except UsageFault Opening :=
  match readWords globalOptions false words with
  | .error fault => .error fault
  | .ok items =>
      match items.find? fun item => item == .flag "help" || item == .flag "version" with
      | some item => .ok (if item == .flag "help" then .help else .version)
      | none =>
          match Item.words items with
          | [] => .error .missingCommand
          | name :: rest =>
              match Command.ofName? name with
              | some known => .ok (.command known (Item.value? items "config") rest)
              | none => .error (.unknownCommand name)

end PipelineLint.CommandLine
