import SchemaCheck.Json.Value
import SchemaCheck.Text.Ascii

/-!
Kinds of values: what a schema node can ask its value to be.
-/

namespace SchemaCheck

/-- The kind of value that a schema node expects. -/
inductive Kind where
  | string
  | integer
  | number
  | boolean
  | object
  | array
deriving DecidableEq

namespace Kind

def all : List Kind := [string, integer, number, boolean, object, array]

def name : Kind → String
  | string => "string"
  | integer => "integer"
  | number => "number"
  | boolean => "boolean"
  | object => "object"
  | array => "array"

def withArticle : Kind → String
  | string => "a string"
  | integer => "an integer"
  | number => "a number"
  | boolean => "a boolean"
  | object => "an object"
  | array => "an array"

def isScalar : Kind → Bool
  | object | array => false
  | _ => true

/-- Whether a value is of the kind. An integer is a number without fractional part. -/
def admits : Kind → Json.Value → Bool
  | string, .string _ => true
  | integer, .number n => n.isIntegral
  | number, .number _ => true
  | boolean, .bool _ => true
  | object, .object _ => true
  | array, .array _ => true
  | _, _ => false

def ofKeyword? (keyword : String) : Option Kind := all.find? fun kind => kind.name == keyword

structure Unknown where
  name : String
deriving DecidableEq

def Unknown.message (e : Unknown) : String := s!"unknown schema type '{e.name}'"

/-- The kind with this name, in any case of ASCII letters. -/
def ofName (text : String) : Except Unknown Kind :=
  let lower := String.ofList (Text.asciiLower text.toList)
  match ofKeyword? lower with
  | some kind => .ok kind
  | none => .error ⟨lower⟩

end Kind

end SchemaCheck
