/-!
Places in a YAML text, and faults: what is wrong, where, and in the course of what.
-/

namespace SchemaCheck.Yaml

structure Mark where
  index : Nat := 0
  line : Nat := 0
  column : Nat := 0
deriving DecidableEq

namespace Mark

def isStart (mark : Mark) : Bool := mark.line == 0 && mark.column == 0

/-- The place in words, counting from one; nothing for the very beginning. -/
def phrase (mark : Mark) : String :=
  if mark.isStart then "" else s!" at line {mark.line + 1} column {mark.column + 1}"

end Mark

/-- What makes a text no YAML text. -/
structure Fault where
  problem : String
  place : Mark := {}
  /-- The number of bytes in front of a character that may not occur. -/
  offset : Nat := 0
  context : Option (String × Mark) := none
deriving DecidableEq

namespace Fault

def placePhrase (fault : Fault) : String :=
  if fault.place.isStart && fault.offset != 0 then s!" at position {fault.offset}"
  else fault.place.phrase

/-- The context in words, with its place unless that is the place of the problem. -/
def contextPhrase (fault : Fault) : String :=
  match fault.context with
  | none => ""
  | some (context, mark) =>
    let same := mark.line == fault.place.line && mark.column == fault.place.column
    ", " ++ context ++ if same then "" else mark.phrase

def message (fault : Fault) : String :=
  fault.problem ++ fault.placePhrase ++ fault.contextPhrase

end Fault

end SchemaCheck.Yaml
