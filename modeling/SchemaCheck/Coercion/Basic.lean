import SchemaCheck.Coercion.Container
import SchemaCheck.Coercion.Scalar
import SchemaCheck.Schema.Basic

/-!
Coercion of a value to a kind, and of a whole document to a schema: where a scalar is not of the
kind that its node expects, it is replaced by what it can be made into, and all else stays.
-/

namespace SchemaCheck

open Json (Value)

def Kind.coerce? : Kind → Value → Option Value
  | .string, value => (Coercion.toText? value).map .string
  | .integer, value => (Coercion.toInteger? value).map .ofInt
  | .number, value => (Coercion.toNumber? value).map fun x => .number (.real x)
  | .boolean, value => (Coercion.toBoolean? value).map .bool
  | .object, value => (Coercion.toObject? value).map .object
  | .array, value => (Coercion.toArray? value).map .array

/-- A scalar made into one of the kind where it can be, else the value as it is. -/
def Kind.settle (kind : Kind) (value : Value) : Value :=
  if kind.isScalar then (kind.coerce? value).getD value else value

mutual

/-- The document with every scalar settled that is not of the kind its node expects. -/
def Node.coerce : Node → Value → Value
  | ⟨rules, items, properties⟩, value =>
    match rules.kind with
    | none => value
    | some kind =>
      if kind.admits value then
        match value with
        | .object fields => .object (coerceFields properties fields)
        | .array values => .array (coerceItems items values)
        | value => value
      else kind.settle value

def coerceItems : Option Node → List Value → List Value
  | none, values => values
  | some node, values => values.map node.coerce

def coerceFields : List (String × Node) → List (String × Value) → List (String × Value)
  | [], fields => fields
  | (name, node) :: rest, fields =>
    coerceFields rest
      (match Fields.get? fields name with
      | some value => Fields.insert name (node.coerce value) fields
      | none => fields)

end

end SchemaCheck
