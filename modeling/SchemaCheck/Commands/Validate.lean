import SchemaCheck.CommandLine.Request
import SchemaCheck.Commands.Load
import SchemaCheck.Validation.Validator

/-!
The command that validates files.
-/

namespace SchemaCheck.CommandLine.ValidateTask

def engineFor (task : ValidateTask) (settings : Settings) : Engine :=
  task.engine.getD settings.engine

/-- What holds for the validation; the command line goes before the settings. -/
def validationFor (task : ValidateTask) (settings : Settings) : ValidationSettings where
  coerce := settings.validation.coerce || task.coerce
  maxDepth := task.maxDepth.getD settings.validation.maxDepth

def announcement (task : ValidateTask) (settings : Settings) : String :=
  let coercing := if (task.validationFor settings).coerce then " (coercing)" else ""
  s!"Validating {task.inputs.length} input(s) against {task.schema} with the " ++
    s!"{(task.engineFor settings).name} engine{coercing}"

def reportsOn (look : Commands.Look) (schema : Schema) :
    Validator → List String → Except Failure (List InputReport)
  | _, [] => .ok []
  | validator, path :: rest => do
    let value ← Commands.loadInput look path
    match validator.validate schema value with
    | none => throw (.other "validation was interrupted")
    | some (result, validator) =>
      let reports ← reportsOn look schema validator rest
      return { input := path, result } :: reports

/-- The report on all inputs; the first file that cannot be used ends the work. -/
def reportOn (task : ValidateTask) (settings : Settings) (look : Commands.Look) :
    Except Failure ValidationReport := do
  let schema ← Commands.loadSchema look task.schema
  let engine := task.engineFor settings
  let validator := Validator.create engine (task.validationFor settings)
  let inputs ← reportsOn look schema validator task.inputs
  return { engine := engine.name, inputs }

def run (task : ValidateTask) (settings : Settings) (output : Output) (look : Commands.Look) :
    String × Option Failure :=
  let announced := if 0 < output.verbosity then output.info (task.announcement settings) else ""
  match task.reportOn settings look with
  | .error failure => (announced, some failure)
  | .ok report =>
    (announced ++ output.validation report,
      if report.isValid then none else some (.notValid report.invalidCount report.inputs.length))

end SchemaCheck.CommandLine.ValidateTask
