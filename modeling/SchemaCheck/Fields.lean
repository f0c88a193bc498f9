/-!
Named entries kept as a list: the fields of an object, the properties of a schema, the entries of
a registry. In a sorted list every name occurs once and names ascend in code point order.
-/

namespace SchemaCheck

abbrev Fields (α : Type) := List (String × α)

namespace Fields

variable {α : Type}

/-- Every name occurs once, and names ascend. -/
def Sorted (fields : Fields α) : Prop := (fields.map Prod.fst).Pairwise (· < ·)

def get? (fields : Fields α) (name : String) : Option α := fields.lookup name

def has (fields : Fields α) (name : String) : Bool := (fields.get? name).isSome

/-- Puts an entry under a name at its place in the order, in the stead of an earlier one. -/
def insert (name : String) (value : α) : Fields α → Fields α
  | [] => [(name, value)]
  | (other, old) :: rest =>
    if name < other then (name, value) :: (other, old) :: rest
    else if name = other then (name, value) :: rest
    else (other, old) :: insert name value rest

/-- The entries in order; of several under one name the last stands. -/
def ofList (entries : List (String × α)) : Fields α :=
  entries.foldl (fun fields entry => fields.insert entry.1 entry.2) []

end Fields

end SchemaCheck
