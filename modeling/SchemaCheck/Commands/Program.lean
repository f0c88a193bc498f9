import SchemaCheck.Commands.Coerce
import SchemaCheck.Commands.Validate

/-!
The whole program: from a command line, the environment and the files to what is written, what is
saved, and the code at the end.
-/

namespace SchemaCheck.Commands

open Json (Value)
open CommandLine (Request Task UsageError)

structure Surroundings where
  look : Look
  environment : String → Option String
  /-- Whether the output goes to a terminal. -/
  terminal : Bool := false

structure Outcome where
  out : String := ""
  err : String := ""
  code : Nat := 0
deriving DecidableEq

def usageOutcome : UsageError → Outcome
  | .version command => { out := Request.versionLine command }
  | .help => { out := Request.usage }
  | .nothingGiven => { err := Request.usage, code := 2 }
  | e => { err := s!"error: {e.message}\n\n{Request.usage}", code := 2 }

/-- What the program does: it ends, or first saves a file and ends as that turns out. -/
inductive Plan where
  | finish (outcome : Outcome)
  | save (path content : String) (next : Except String Unit → Outcome)

structure ValidatorEntry where
  name : String
  standard : Bool
deriving DecidableEq

namespace ValidatorEntry

def ofRegistry (registry : Registry) : List ValidatorEntry :=
  registry.names.map fun name => { name, standard := Registry.isStandard name }

def toValue (entry : ValidatorEntry) : Value :=
  .object [("name", .string entry.name), ("standard", .bool entry.standard)]

def cells (entry : ValidatorEntry) : List String :=
  [entry.name, if entry.standard then "standard" else "registered"]

end ValidatorEntry

def listValidators (registry : Registry) (output : Output) : String :=
  let entries := ValidatorEntry.ofRegistry registry
  if output.format = .human then
    output.heading "Custom Validators" ++
      output.table ["Name", "Kind"] (entries.map ValidatorEntry.cells)
  else output.data (.array (entries.map ValidatorEntry.toValue))

def showSettings (settings : Settings) (output : Output) : String :=
  if output.format = .human then
    output.heading "Effective Configuration" ++ Yaml.print settings.toValue
  else output.data settings.toValue

def outcomeOf (output : Output) (written : String × Option Failure) : Outcome :=
  match written.2 with
  | none => { out := written.1 }
  | some failure =>
    { out := written.1, err := failure.report output.color, code := failure.exitCode }

def savedOutcome (path : String) (output : Output) (result : Except String Unit) : Outcome :=
  match result with
  | .ok () =>
    { out := output.success s!"✓ Created config at {path}" ++
        output.info "Edit it to customize validation, output and logging defaults." }
  | .error reason =>
    outcomeOf output ("", some ((Failure.system reason).within s!"Writing {path}"))

/-- Writes the default settings, but not over a file unless that is wanted. -/
def writeSettings (path : String) (force : Bool) (output : Output) (look : Look) : Plan :=
  if (look path).isThere && !force then
    .finish
      { out := output.warning s!"Config already exists at {path} (use --force to overwrite)" }
  else
    .save path (Settings.render (FilePath.isYaml path) {}) (savedOutcome path output)

/-- The format of the output: that of the command line, then of the settings, then for people. -/
def formatFor (request : Request) (settings : Settings) : OutputFormat :=
  (request.output.or (OutputFormat.ofName? settings.output.format)).getD .human

def outputFor (request : Request) (settings : Settings) (terminal : Bool) : Output where
  format := formatFor request settings
  color := terminal && !request.noColor && settings.output.color
  quiet := request.quiet
  verbosity := request.verbosity

def perform (task : Task) (settings : Settings) (output : Output) (look : Look) : Plan :=
  match task with
  | .validate task => .finish (outcomeOf output (task.run settings output look))
  | .coerce task => .finish (outcomeOf output (task.run output))
  | .listValidators => .finish { out := listValidators .standard output }
  | .showSettings => .finish { out := showSettings settings output }
  | .writeSettings path force => writeSettings path force output look
  | .complete _ => .finish {}

namespace Plan

def warned (warnings : String) : Plan → Plan
  | finish outcome => finish { outcome with err := warnings ++ outcome.err }
  | save path content next =>
    save path content fun result =>
      let outcome := next result
      { outcome with err := warnings ++ outcome.err }

end Plan

def settingsFor (request : Request) (around : Surroundings) : Except Failure (String × Settings) :=
  match request.settings with
  | some path => (loadSettings around.look path).map fun settings => ("", settings)
  | none => .ok (findSettings around.look (settingsPaths around.environment))

def run (request : Request) (around : Surroundings) : Plan :=
  match settingsFor request around with
  | .error failure =>
    .finish (outcomeOf { color := around.terminal && !request.noColor } ("", some failure))
  | .ok (warnings, settings) =>
    (perform request.task settings (outputFor request settings around.terminal)
      around.look).warned warnings

def variableNames : List String := ["HOME", "XDG_CONFIG_HOME", "CONFORM_CONFIG"]

def pathsFor (request : Request) (environment : String → Option String) : List String :=
  let settings :=
    match request.settings with
    | some path => [path]
    | none => settingsPaths environment
  settings ++
    match request.task with
    | .validate task => task.schema :: task.inputs
    | .writeSettings path _ => [path]
    | _ => []

def runLine (words : List String) (around : Surroundings) : Except UsageError Plan := do
  let request ← Request.read around.environment words
  return run request around

end SchemaCheck.Commands
