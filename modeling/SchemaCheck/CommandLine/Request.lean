import SchemaCheck.CommandLine.Matching
import SchemaCheck.Output
import SchemaCheck.Schema.Kind
import SchemaCheck.Validation.Settings

/-!
What the user asks the program for.
-/

namespace SchemaCheck.CommandLine

inductive Shell where
  | bash
  | zsh
  | fish
  | powershell
  | elvish
deriving DecidableEq

namespace Shell

def all : List Shell := [bash, zsh, fish, powershell, elvish]

def name : Shell → String
  | bash => "bash"
  | zsh => "zsh"
  | fish => "fish"
  | powershell => "powershell"
  | elvish => "elvish"

def keyword : Shell → String
  | powershell => "power-shell"
  | shell => shell.name

end Shell

structure ValidateTask where
  schema : String
  inputs : List String
  engine : Option Engine := none
  coerce : Bool := false
  maxDepth : Option Nat := none
deriving DecidableEq

structure CoerceTask where
  kind : Kind := .string
  format : Option String := none
  value : String
deriving DecidableEq

inductive Task where
  | validate (task : ValidateTask)
  | coerce (task : CoerceTask)
  | listValidators
  | showSettings
  | writeSettings (path : String) (force : Bool)
  | complete (shell : Shell)
deriving DecidableEq

structure Request where
  verbose : Nat := 0
  quiet : Bool := false
  settings : Option String := none
  output : Option OutputFormat := none
  noColor : Bool := false
  task : Task
deriving DecidableEq

namespace Request

def programName : String := "conform"

def version : String := "0.1.0"

def versionLine (command : String) : String := s!"{command} {version}\n"

def usage : String :=
  "Usage: conform [OPTIONS] <COMMAND>\n\n" ++
    "Commands: validate, coerce, validators, config show, config init, completions\n"

def commonSwitches : List Switch :=
  [{ name := "verbose", letter := some 'v', action := .count },
    { name := "quiet", letter := some 'q', action := .flag, conflict := some "verbose" },
    { name := "config", letter := some 'c', action := .takes .path
      fallback := some "CONFORM_CONFIG" },
    { name := "output", letter := some 'o'
      action := .takes (.oneOf (OutputFormat.all.map OutputFormat.name)) },
    { name := "no-color", action := .flag },
    { name := "help", letter := some 'h', action := .showsHelp },
    { name := "version", letter := some 'V', action := .showsVersion }]

def command (name : String) (switches : List Switch) (operand : Option Operand)
    (commands : List Command) : Command :=
  .mk name (switches ++ commonSwitches) operand commands

def validateCommand : Command :=
  command "validate"
    [{ name := "schema", letter := some 's', action := .takes .path, required := true },
      { name := "engine", letter := some 'e'
        action := .takes (.oneOf (Engine.all.map Engine.name)) },
      { name := "coerce", action := .flag },
      { name := "max-depth", action := .takes .number }]
    (some { name := "inputs", kind := .path, many := true }) []

def coerceCommand : Command :=
  command "coerce"
    [{ name := "type", letter := some 't', action := .takes (.oneOf (Kind.all.map Kind.name)) },
      { name := "format", letter := some 'f', action := .takes .text }]
    (some { name := "value", kind := .text, allowsHyphen := true }) []

def showCommand : Command := command "show" [] none []

def initCommand : Command :=
  command "init"
    [{ name := "path", action := .takes .path }, { name := "force", action := .flag }] none []

def completionsCommand : Command :=
  command "completions" []
    (some { name := "shell", kind := .oneOf (Shell.all.map Shell.keyword) }) []

def grammar : Command :=
  command programName [] none
    [validateCommand, coerceCommand, command "validators" [] none [],
      command "config" [] none [showCommand, initCommand], completionsCommand]

def defaultPath : String := ".conform.yaml"

structure Details where
  inputs : Inputs

namespace Details

def values (details : Details) (name : String) : List String :=
  ((details.inputs.lookup name).map Given.values).getD []

def value? (details : Details) (name : String) : Option String := (details.values name).head?

def has (details : Details) (name : String) : Bool := (details.inputs.lookup name).isSome

end Details

def task? (commands : List String) (details : Details) : Option Task :=
  match commands with
  | ["validate"] =>
    (details.value? "schema").map fun schema =>
      .validate
        { schema
          inputs := details.values "inputs"
          engine := (details.value? "engine").bind Engine.ofKeyword?
          coerce := details.has "coerce"
          maxDepth := (details.value? "max-depth").bind fun text => Text.unsigned? text.toList }
  | ["coerce"] =>
    (details.value? "value").map fun value =>
      .coerce
        { kind := ((details.value? "type").bind Kind.ofKeyword?).getD .string
          format := details.value? "format"
          value }
  | ["validators"] => some .listValidators
  | ["config", "show"] => some .showSettings
  | ["config", "init"] =>
    some (.writeSettings ((details.value? "path").getD defaultPath) (details.has "force"))
  | ["completions"] =>
    ((details.value? "shell").bind fun word => Shell.all.find? (·.keyword == word)).map .complete
  | _ => none

def ofMatches? (found : Matches) : Option Request := do
  let details : Details := ⟨(found.getLast?.map Prod.snd).getD []⟩
  let task ← task? ((found.map Prod.fst).drop 1) details
  let given := found.given?
  return {
    verbose := min 255 (((given "verbose").map Given.times).getD 0)
    quiet := (given "quiet").isSome
    settings := (given "config").bind fun g => g.values.head?
    output := ((given "output").bind fun g => g.values.head?).bind OutputFormat.ofKeyword?
    noColor := (given "no-color").isSome
    task }

def read (environment : String → Option String) (words : List String) :
    Except UsageError Request := do
  let found ← grammar.matchLine environment words
  match ofMatches? found with
  | some request => return request
  | none => throw .missingCommand

def verbosity (request : Request) : Nat := if request.quiet then 0 else request.verbose

end Request

end SchemaCheck.CommandLine
