import SchemaCheck.Json.Reader
import SchemaCheck.Text.Blank

/-!
Arrays, objects and other values read from JSON text that stands in a string.
-/

namespace SchemaCheck.Coercion

open Json (Value)

def readText? (text : String) : Option Value := Json.parse? (Text.trimmed text)

def commaParts : List Char → List (List Char)
  | [] => [[]]
  | c :: rest =>
    if c = ',' then [] :: commaParts rest
    else
      match commaParts rest with
      | [] => [[c]]
      | part :: parts => (c :: part) :: parts

/-- A string is read as JSON text; any other value is its own. -/
def decode? : Value → Option Value
  | .string s => readText? s
  | value => some value

/-- A string is read as an array or else split at its commas; another scalar is a single element. -/
def toArray? : Value → Option (List Value)
  | .array items => some items
  | .string s =>
    match readText? s with
    | some (.array items) => some items
    | _ => some ((commaParts s.toList).map fun part => .string (String.ofList (Text.trim part)))
  | .null | .object _ => none
  | scalar => some [scalar]

def toObject? : Value → Option (List (String × Value))
  | .object fields => some fields
  | .string s =>
    match readText? s with
    | some (.object fields) => some fields
    | _ => none
  | _ => none

end SchemaCheck.Coercion
