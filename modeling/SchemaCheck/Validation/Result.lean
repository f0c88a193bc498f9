import SchemaCheck.Validation.Violation

/-!
The result of a validation: whether the value is valid, and the messages about it.
-/

namespace SchemaCheck

/-- What validation says about a value. A result that was written down elsewhere can claim to be
valid and list errors all the same. -/
structure ValidationResult where
  valid : Bool
  errors : List String := []
deriving DecidableEq

namespace ValidationResult

def success : ValidationResult := { valid := true }

def ofErrors (errors : List String) : ValidationResult := { valid := errors.isEmpty, errors }

def ofFindings (findings : List Finding) : ValidationResult :=
  ofErrors (findings.map Finding.message)

/-- Whether some error starts with the path and a blank. -/
def hasErrorAt (result : ValidationResult) (path : String) : Bool :=
  result.errors.any fun error => (path.toList ++ [' ']).isPrefixOf error.toList

end ValidationResult

end SchemaCheck
