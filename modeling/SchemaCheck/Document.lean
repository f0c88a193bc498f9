import SchemaCheck.Json.Value

/-!
Documents: what a JSON or YAML text holds, entries in the order in which they are written and
repeated keys kept. Unlike a JSON value, a document can have keys of any sort, infinite numbers,
and blank places.
-/

namespace SchemaCheck

inductive Document where
  | null
  /-- A place where nothing is written; it stands for null, and for an empty list or record. -/
  | blank
  | bool (b : Bool)
  | integer (n : Int)
  | real (x : Binary64)
  | text (s : String)
  | sequence (items : List Document)
  | mapping (entries : List (Document × Document))
deriving Inhabited

namespace Document

mutual

def ofValue : Json.Value → Document
  | .null => null
  | .bool b => bool b
  | .number (.integer n _ _) => integer n
  | .number (.real x) => real (.finite x)
  | .string s => text s
  | .array items => sequence (ofItems items)
  | .object fields => mapping (ofFields fields)

def ofItems : List Json.Value → List Document
  | [] => []
  | value :: rest => ofValue value :: ofItems rest

def ofFields : List (String × Json.Value) → List (Document × Document)
  | [] => []
  | (name, value) :: rest => (text name, ofValue value) :: ofFields rest

end

mutual

/-- The JSON value of a document whose keys are texts; the last of several with one name stands,
and numbers that are not finite become null. -/
def toValue? : Document → Option Json.Value
  | null | blank => some .null
  | bool b => some (.bool b)
  | integer n => (Json.Number.ofInt? n).map .number
  | real x => some (.ofBinary64 x)
  | text s => some (.string s)
  | sequence items => (toItems? items).map .array
  | mapping entries => (toFields? entries).map fun fields => .object (Fields.ofList fields)

def toItems? : List Document → Option (List Json.Value)
  | [] => some []
  | item :: rest => do
    let value ← item.toValue?
    return value :: (← toItems? rest)

def toFields? : List (Document × Document) → Option (List (String × Json.Value))
  | [] => some []
  | (text name, content) :: rest => do
    let value ← content.toValue?
    return (name, value) :: (← toFields? rest)
  | _ => none

end

def isNull : Document → Bool
  | null | blank => true
  | _ => false

def text? : Document → Option String
  | text s => some s
  | _ => none

def flag? : Document → Option Bool
  | bool b => some b
  | _ => none

def natural? : Document → Option Nat
  | integer n => if 0 ≤ n then some n.toNat else none
  | _ => none

def binary64? : Document → Option Binary64
  | integer n => some (.ofInt n)
  | real x => some x
  | _ => none

def word? : Document → Option UInt64
  | integer n => if 0 ≤ n ∧ n < (wordBound : Int) then some (.ofNat n.toNat) else none
  | _ => none

def texts? : Document → Option (List String)
  | sequence items => items.mapM text?
  | _ => none

/-- Nothing where null stands, else what the reader makes of the document. -/
def optional? {α : Type} (read : Document → Option α) (d : Document) : Option (Option α) :=
  if d.isNull then some none else (read d).map some

end Document

end SchemaCheck
