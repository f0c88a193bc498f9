import SchemaCheck.Json.Shaped
import SchemaCheck.Validation.Result

/-!
Results that were written down as JSON text.
-/

namespace SchemaCheck.ValidationResult

def shape : Shape :=
  .record "ValidationResult" [("valid", .flag, true), ("errors", .list .text, false)]

def texts : Document → List String
  | .sequence items => items.filterMap Document.text?
  | _ => []

def ofDocument (d : Document) : ValidationResult where
  valid := ((d.field? "valid").bind Document.flag?).getD false
  errors := ((d.field? "errors").map texts).getD []

/-- Reads a result; what it claims is not questioned. -/
def ofJson (text : String) : Except Json.ShapedError ValidationResult :=
  (Json.readShaped shape text).map ofDocument

end SchemaCheck.ValidationResult
