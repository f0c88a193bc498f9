import SchemaCheck.Fields
import SchemaCheck.Json.Value
import SchemaCheck.Schema.Kind
import SchemaCheck.Text.Blank
import SchemaCheck.Text.Quoted

/-!
Custom validators: functions that a schema node can ask for by name. A registry holds each name
once, in order, and starts with the standard ones.
-/

namespace SchemaCheck

open Json (Value)

/-- A custom validator: it sees a value and the path at which it stands, and gives the complaints
that it has, in order. -/
abbrev CustomCheck := Value → String → List String

structure Registry where
  entries : Fields CustomCheck := []

namespace Registry

def lookup (registry : Registry) (name : String) : Option CustomCheck := registry.entries.get? name

def contains (registry : Registry) (name : String) : Bool := registry.entries.has name

/-- Adds a validator; an earlier one of the same name goes. -/
def register (registry : Registry) (name : String) (check : CustomCheck) : Registry :=
  ⟨registry.entries.insert name check⟩

def names (registry : Registry) : List String := registry.entries.map Prod.fst

def size (registry : Registry) : Nat := registry.entries.length

def isEmpty (registry : Registry) : Bool := registry.entries.isEmpty

end Registry

namespace CustomCheck

def notOfKind (path : String) (kind : Kind) : List String := [s!"{path} must be {kind.withArticle}"]

/-- Refuses null, blank strings, and containers without an element. -/
def nonEmpty : CustomCheck := fun value path =>
  let isEmpty :=
    match value with
    | .null => true
    | .string s => s.toList.all Text.isBlank
    | .array items => items.isEmpty
    | .object fields => fields.isEmpty
    | _ => false
  if isEmpty then [s!"{path} must not be empty"] else []

def alphanumeric : CustomCheck := fun value path =>
  match value with
  | .string s =>
    if s.toList.all Char.isAlphanum then [] else [s!"{path} must contain only letters and digits"]
  | _ => notOfKind path .string

def noWhitespace : CustomCheck := fun value path =>
  match value with
  | .string s =>
    if s.toList.any Text.isBlank then [s!"{path} must not contain whitespace"] else []
  | _ => notOfKind path .string

def zero : Binary64 := .finite .zero

def positive : CustomCheck := fun value path =>
  match value.binary64? with
  | some x => if zero.lt x then [] else [s!"{path} must be positive"]
  | none => notOfKind path .number

def nonNegative : CustomCheck := fun value path =>
  match value.binary64? with
  | some x => if x.lt zero then [s!"{path} must not be negative"] else []
  | none => notOfKind path .number

def standard : List (String × CustomCheck) :=
  [("nonEmpty", nonEmpty), ("alphanumeric", alphanumeric), ("noWhitespace", noWhitespace),
    ("positive", positive), ("nonNegative", nonNegative)]

end CustomCheck

namespace Registry

def standard : Registry := ⟨Fields.ofList CustomCheck.standard⟩

def describe (registry : Registry) : String :=
  let names := ", ".intercalate (registry.names.map Text.quoted)
  "CustomValidatorRegistry \x7b validators: [" ++ names ++ "] \x7d"

def isStandard (name : String) : Bool := (CustomCheck.standard.map Prod.fst).contains name

end Registry

end SchemaCheck
