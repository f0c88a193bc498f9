import SchemaCheck.Number.Decimal
import SchemaCheck.Schema.Kind
import SchemaCheck.Validation.Location

/-!
What can be wrong with a value at a place, and the message that says so.
-/

namespace SchemaCheck

/-- A rule that a value breaks, or a reason why its rules cannot be checked. -/
inductive Violation where
  | notOfKind (expected : Kind)
  | missing
  | tooShort (least : Nat)
  | tooLong (most : Nat)
  | brokenPattern (pattern : String)
  | patternMismatch (pattern : String)
  | notAllowed (allowed : List String)
  | notInFormat (format : String)
  | unknownFormat (format : String)
  | belowMinimum (bound : Binary64)
  | aboveMaximum (bound : Binary64)
  | unknownValidator (name : String)
  | tooDeep (most : Nat)
  /-- A complaint of a custom validator, in its own words. -/
  | custom (complaint : String)
deriving DecidableEq

def Violation.message (path : String) : Violation → String
  | notOfKind expected => s!"{displayPath path} must be {expected.withArticle}"
  | missing => s!"{displayPath path} is required"
  | tooShort least => s!"{displayPath path} must be at least {least} characters"
  | tooLong most => s!"{displayPath path} must be no more than {most} characters"
  | brokenPattern pattern => s!"{displayPath path} has an invalid pattern '{pattern}'"
  | patternMismatch pattern => s!"{displayPath path} must match pattern {pattern}"
  | notAllowed allowed =>
    let choices := ", ".intercalate allowed
    s!"{displayPath path} must be one of: {choices}"
  | notInFormat format => s!"{displayPath path} must be a valid {format}"
  | unknownFormat format => s!"{displayPath path} has unknown format '{format}'"
  | belowMinimum bound => s!"{displayPath path} must be at least {bound.display}"
  | aboveMaximum bound => s!"{displayPath path} must be no more than {bound.display}"
  | unknownValidator name => s!"{displayPath path} references unknown custom validator '{name}'"
  | tooDeep most => s!"{displayPath path} exceeds maximum nesting depth of {most}"
  | custom complaint => complaint

structure Finding where
  path : String
  violation : Violation
deriving DecidableEq

def Finding.message (finding : Finding) : String := finding.violation.message finding.path

end SchemaCheck
