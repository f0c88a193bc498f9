import SchemaCheck.Coercion.Semantic
import SchemaCheck.CommandLine.Request
import SchemaCheck.Failure
import SchemaCheck.Json.Reader

/-!
The command that coerces a value.
-/

namespace SchemaCheck.CommandLine.CoerceTask

open Json (Value)

/-- The value that is meant: that of a JSON text, else the text itself. -/
def input (task : CoerceTask) : Value := (Json.parse? task.value).getD (.string task.value)

def target (task : CoerceTask) : String :=
  match task.format with
  | some format => s!"{task.kind.name} ({format})"
  | none => task.kind.name

def report (task : CoerceTask) : Except Failure CoercionReport :=
  match task.format.filter fun name => (SemanticFormat.ofName? name).isNone with
  | some unknown => .error (.invalidArguments s!"unknown format '{unknown}'")
  | none =>
    match task.kind.read? task.format task.input with
    | some meaning =>
      .ok
        { input := task.input
          kind := task.kind.name
          format := task.format
          value := meaning.toValue }
    | none => .error (.notCoerced task.input.compact task.target)

def run (task : CoerceTask) (output : Output) : String × Option Failure :=
  match task.report with
  | .ok report => (output.coercion report, none)
  | .error failure => ("", some failure)

end SchemaCheck.CommandLine.CoerceTask
