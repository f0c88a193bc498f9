import SchemaCheck.Validation.Optimized
import SchemaCheck.Validation.Reference

/-!
Validators of either engine.
-/

namespace SchemaCheck

open Json (Value)

/-- A validator. That of the optimized engine changes with every use. -/
inductive Validator where
  | reference (settings : ValidationSettings) (registry : Registry)
  | optimized (validator : OptimizedValidator)

namespace Validator

def create (engine : Engine) (settings : ValidationSettings) : Validator :=
  match engine with
  | .reference => reference settings .standard
  | .optimized => optimized { settings }

def engine : Validator → Engine
  | reference _ _ => .reference
  | optimized _ => .optimized

def validate (validator : Validator) (schema : Schema) (value : Value) :
    Option (ValidationResult × Validator) :=
  match validator with
  | reference settings registry =>
    some (Reference.validate settings registry schema value, validator)
  | optimized inner =>
    (inner.validate schema value).map fun (result, inner) => (result, optimized inner)

end Validator

end SchemaCheck
