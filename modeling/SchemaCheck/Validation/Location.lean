/-!
Where a value stands in a document: a path of field names and element indices, and its depth.
-/

namespace SchemaCheck

structure Location where
  /-- Field names with dots between them and indices in brackets; empty at the root. -/
  path : String := ""
  depth : Nat := 0
deriving DecidableEq

namespace Location

def root : Location := {}

def field (location : Location) (name : String) : Location where
  path := if location.path.isEmpty then name else location.path ++ "." ++ name
  depth := location.depth + 1

def element (location : Location) (index : Nat) : Location where
  path := location.path ++ "[" ++ toString index ++ "]"
  depth := location.depth + 1

end Location

/-- The path as it is shown; the root has a name of its own. -/
def displayPath (path : String) : String := if path.isEmpty then "value" else path

end SchemaCheck
