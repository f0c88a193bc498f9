import SchemaCheck.Coercion.Basic

/-!
What can be chosen for a validation: whether scalars are coerced, how deep values may nest, and
which engine does the work.
-/

namespace SchemaCheck

open Json (Value)

structure ValidationSettings where
  /-- Whether scalars of another kind are coerced before they are checked. -/
  coerce : Bool := false
  /-- The greatest depth at which a value is still checked. -/
  maxDepth : Nat := 128
deriving DecidableEq

/-- The value as a node of a kind takes it: a value of the kind as it is, a scalar of another kind
coerced if that is wanted. -/
def ValidationSettings.adapt? (settings : ValidationSettings) (kind : Kind) (value : Value) :
    Option Value :=
  if kind.admits value then some value
  else if settings.coerce && kind.isScalar then (kind.coerce? value).filter kind.admits
  else none

/-- A way to validate. Both give the same results. -/
inductive Engine where
  | reference
  | optimized
deriving DecidableEq

namespace Engine

def default : Engine := optimized

def all : List Engine := [reference, optimized]

def name : Engine → String
  | reference => "reference"
  | optimized => "optimized"

def ofKeyword? (keyword : String) : Option Engine := all.find? fun engine => engine.name == keyword

structure Unknown where
  name : String
deriving DecidableEq

def Unknown.message (e : Unknown) : String := s!"unknown validation engine '{e.name}'"

def ofName (text : String) : Except Unknown Engine :=
  let lower := String.ofList (Text.asciiLower text.toList)
  match ofKeyword? lower with
  | some engine => .ok engine
  | none => .error ⟨lower⟩

end Engine

end SchemaCheck
