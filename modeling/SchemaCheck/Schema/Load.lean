import SchemaCheck.Json.Reader
import SchemaCheck.Schema.Yaml

/-!
Loading schemas from JSON text and from decoded values.
-/

namespace SchemaCheck.Schema

/-- The kinds of text or value from which a schema is loaded. -/
inductive Source where
  | json
  | yaml
  | value
deriving DecidableEq

inductive LoadError where
  | malformed (source : Source)
  | custom (reason : String)
deriving DecidableEq

def Source.phrase : Source → String
  | json => "JSON schema document"
  | yaml => "YAML schema document"
  | value => "schema document"

def LoadError.message : LoadError → String
  | malformed source => s!"Invalid schema: malformed {source.phrase}"
  | custom reason => s!"Invalid schema: {reason}"

def ofJson (text : String) : Except LoadError Schema :=
  match Json.readDocument text.toList with
  | .error _ => .error (.malformed .json)
  | .ok value =>
    match ofValue? value with
    | some schema => .ok schema
    | none => .error (.malformed .json)

def ofYaml (text : String) : Except LoadError Schema :=
  match ofContent? (.ofText text.toList) with
  | some schema => .ok schema
  | none => .error (.malformed .yaml)

def ofValue (value : Json.Value) : Except LoadError Schema :=
  match ofValue? value with
  | some schema => .ok schema
  | none => .error (.malformed .value)

end SchemaCheck.Schema
