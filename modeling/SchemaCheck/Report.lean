import SchemaCheck.Json.Printer
import SchemaCheck.Validation.Result

/-!
Reports: what came of validating some inputs, and of coercing a value.
-/

namespace SchemaCheck

open Json (Value)

structure InputReport where
  input : String
  result : ValidationResult
deriving DecidableEq

structure ValidationReport where
  engine : String
  inputs : List InputReport
deriving DecidableEq

namespace ValidationReport

def invalidCount (report : ValidationReport) : Nat :=
  (report.inputs.filter fun input => !input.result.valid).length

def isValid (report : ValidationReport) : Bool := report.inputs.all (·.result.valid)

def summary (report : ValidationReport) : String :=
  let total := report.inputs.length
  s!"{total - report.invalidCount} of {total} input(s) valid ({report.engine} engine)"

end ValidationReport

def InputReport.countPhrase (report : InputReport) : String :=
  s!"({report.result.errors.length} error(s))"

def InputReport.toValue (report : InputReport) : Value :=
  .object
    [("input", .string report.input), ("valid", .bool report.result.valid),
      ("errors", .strings report.result.errors)]

def ValidationReport.toValue (report : ValidationReport) : Value :=
  .object
    [("engine", .string report.engine), ("valid", .bool report.isValid),
      ("inputs", .array (report.inputs.map InputReport.toValue))]

structure CoercionReport where
  input : Value
  kind : String
  format : Option String
  value : Value

namespace CoercionReport

def toValue (report : CoercionReport) : Value :=
  .object
    ([("input", report.input), ("type", .string report.kind)] ++
      (report.format.toList.map fun format => ("format", .string format)) ++
      [("value", report.value)])

/-- The coerced value as a person would type it. -/
def plainText (report : CoercionReport) : String :=
  match report.value with
  | .string s => s
  | .array items => (Value.array items).pretty
  | .object fields => (Value.object fields).pretty
  | value => value.compact

end CoercionReport

end SchemaCheck
