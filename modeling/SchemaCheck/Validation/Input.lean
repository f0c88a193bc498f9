import SchemaCheck.Document
import SchemaCheck.Json.Printer
import SchemaCheck.Json.Reader
import SchemaCheck.Validation.Optimized
import SchemaCheck.Validation.Reference

/-!
Validation of written values: a text is read as JSON first, and a document is written as JSON text
and read again.
-/

namespace SchemaCheck

open Json (Value)

inductive InputError where
  | notJson (error : Json.ParseError)
  | keyNotString
deriving DecidableEq

def InputError.message : InputError → String
  | notJson error => s!"Failed to parse input: {error.message}"
  | keyNotString => "Failed to encode value: key must be a string"

section Encoding

/-- The key of a field: a text, or the digits of an integer. -/
def Document.key? : Document → Option String
  | .text s => some s
  | .integer n => some (String.ofList (Text.decimal n))
  | .bool b => some (if b then "true" else "false")
  | _ => none

mutual

/-- The value that a document stands for in JSON; keys must be texts, integers or truth values. -/
def Document.encode? : Document → Option Value
  | .null | .blank => some .null
  | .bool b => some (.bool b)
  | .integer n => some (.ofInt n)
  | .real x => some (.ofBinary64 x)
  | .text s => some (.string s)
  | .sequence items => (encodeItems? items).map .array
  | .mapping entries => (encodeEntries? entries).map .object

def encodeItems? : List Document → Option (List Value)
  | [] => some []
  | item :: rest => do
    let value ← item.encode?
    let values ← encodeItems? rest
    return value :: values

def encodeEntries? : List (Document × Document) → Option (List (String × Value))
  | [] => some []
  | (key, content) :: rest => do
    let name ← key.key?
    let value ← content.encode?
    let fields ← encodeEntries? rest
    return (name, value) :: fields

end

end Encoding

namespace Reference

variable (settings : ValidationSettings) (registry : Registry)

def validateText (schema : Schema) (text : String) : Except InputError ValidationResult :=
  match Json.parse text with
  | .ok value => .ok (validate settings registry schema value)
  | .error error => .error (.notJson error)

def validateDocument (schema : Schema) (document : Document) :
    Except InputError ValidationResult :=
  match document.encode? with
  | some value => validateText settings registry schema value.compact
  | none => .error .keyNotString

end Reference

namespace OptimizedValidator

/-- Validates the value that a text stands for. The buffer is taken before the text is read. -/
def validateText (validator : OptimizedValidator) (schema : Schema) (text : String) :
    Option (Except InputError ValidationResult × OptimizedValidator) :=
  let (scratch, pool) := validator.pool.acquire
  match Json.parse text with
  | .ok value =>
    ({ validator with pool }.run schema value scratch).map fun (result, validator) =>
      (.ok result, validator)
  | .error error => some (.error (.notJson error), { validator with pool := pool.release scratch })

def validateDocument (validator : OptimizedValidator) (schema : Schema) (document : Document) :
    Option (Except InputError ValidationResult × OptimizedValidator) :=
  match document.encode? with
  | some value => validator.validateText schema value.compact
  | none => some (.error .keyNotString, validator)

end OptimizedValidator

end SchemaCheck
