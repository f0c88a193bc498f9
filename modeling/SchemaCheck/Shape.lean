import SchemaCheck.Document
import SchemaCheck.Number.Decimal
import SchemaCheck.Text.Quoted

/-!
Shapes: what the places of a settings file or of a written result take. A text is read by a shape,
so that what does not fit is told in the order in which it stands in the text.
-/

namespace SchemaCheck

inductive Shape where
  | flag
  | count
  | text
  | optional (shape : Shape)
  | choice (names : List String)
  | list (item : Shape)
  /-- Named fields, each with its shape and whether it must be there. -/
  | record (name : String) (fields : List (String × Shape × Bool))

namespace Shape

def expected : Shape → String
  | flag => "a boolean"
  | count => "usize"
  | text => "a string"
  | optional _ => "option"
  | choice _ => "variant identifier"
  | list _ => "a sequence"
  | record name _ => "struct " ++ name

inductive Misfit where
  | wrongType (found expected : String)
  | wrongValue (found expected : String)
  | tooFew (count : Nat) (expected : String)
  | missingField (name : String)
  | repeatedField (name : String)
  | unknownChoice (name : String) (names : List String)

def alternatives (names : List String) : String :=
  let quoted := names.map fun name => "`" ++ name ++ "`"
  match quoted with
  | [a] => s!"expected {a}"
  | [a, b] => s!"expected {a} or {b}"
  | _ => "expected one of " ++ ", ".intercalate quoted

def Misfit.message : Misfit → String
  | .wrongType found wanted => s!"invalid type: {found}, expected {wanted}"
  | .wrongValue found wanted => s!"invalid value: {found}, expected {wanted}"
  | .tooFew number wanted => s!"invalid length {number}, expected {wanted}"
  | .missingField name => s!"missing field `{name}`"
  | .repeatedField name => s!"duplicate field `{name}`"
  | .unknownChoice name names => s!"unknown variant `{name}`, {alternatives names}"

def foundBool (b : Bool) : String := s!"boolean `{b}`"

def foundInteger (n : Int) : String := s!"integer `{n}`"

def foundReal (text : String) : String := s!"floating point `{text}`"

def foundText (text : String) : String := "string " ++ Text.quoted text

def missing? (fields : List (String × Shape × Bool)) (read : List String) : Option String :=
  (fields.find? fun field => field.2.2 && !read.contains field.1).map Prod.fst

end Shape

namespace Document

def ofFieldsRead (fields : List (String × Document)) : Document :=
  mapping (fields.map fun field => (text field.1, field.2))

def field? (name : String) : Document → Option Document
  | mapping entries =>
    (entries.find? fun entry => entry.1.text? == some name).bind fun entry =>
      if entry.2.isNull then none else some entry.2
  | _ => none

end Document

end SchemaCheck
