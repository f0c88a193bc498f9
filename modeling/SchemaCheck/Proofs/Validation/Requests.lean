import SchemaCheck.Proofs.Validation.Findings

/-!
The patterns that a validation asks for. A string that its node goes on with asks for the pattern of
its node and then for that of its format, but not for the latter when the former is none; nothing
else asks for a pattern. The requests of a value are those of its parts, in the order in which the
parts are checked.
-/

namespace SchemaCheck

open Json (Value)

def Pattern.compiles (text : String) : Bool := (ofText? text).isSome

theorem Pattern.compiles_of_some {text : String} {pattern : Pattern}
    (compiled : ofText? text = some pattern) : compiles text = true := by
  rw [compiles, compiled, Option.isSome_some]

namespace Rules

def formatRequests (rules : Rules) : List String :=
  match rules.format with
  | none => []
  | some name =>
    match TextFormat.ofName? name with
    | none => []
    | some format => [format.patternText]

def textRequests (rules : Rules) : List String :=
  match rules.pattern with
  | none => rules.formatRequests
  | some source =>
    source :: if Pattern.compiles source then rules.formatRequests else []

end Rules

section Requests

def fieldRequests (requests : Value → List String) (name : String)
    (fields : List (String × Value)) : List String :=
  match Fields.get? fields name with
  | some value => requests value
  | none => []

variable (settings : ValidationSettings)

mutual

/-- The requests for a value at a depth. -/
def nodeRequests : Node → Nat → Value → List String
  | ⟨rules, items, properties⟩, depth, value =>
    if settings.maxDepth < depth then []
    else
      match rules.kind with
      | none => []
      | some kind =>
        match settings.adapt? kind value with
        | some (.object fields) => propertyRequests properties (depth + 1) fields
        | some (.array values) => itemRequests items (depth + 1) values
        | some (.string _) => rules.textRequests
        | _ => []

def propertyRequests : List (String × Node) → Nat → List (String × Value) → List String
  | [], _, _ => []
  | (name, node) :: rest, depth, fields =>
    fieldRequests (nodeRequests node depth) name fields ++ propertyRequests rest depth fields

def itemRequests : Option Node → Nat → List Value → List String
  | none, _, _ => []
  | some node, depth, values => values.flatMap (nodeRequests node depth)

end

def contentRequests (node : Node) (depth : Nat) : Value → List String
  | .object fields => propertyRequests settings node.properties (depth + 1) fields
  | .array values => itemRequests settings node.items (depth + 1) values
  | .string _ => node.rules.textRequests
  | _ => []

variable {settings} {node : Node} {depth : Nat} {value content : Value} {kind : Kind}

theorem nodeRequests_deep (deep : settings.maxDepth < depth) :
    nodeRequests settings node depth value = [] := by
  cases node
  rw [nodeRequests, if_pos deep]

theorem nodeRequests_untyped (untyped : node.rules.kind = none) :
    nodeRequests settings node depth value = [] := by
  cases node
  rw [nodeRequests, untyped]
  exact ite_self []

theorem nodeRequests_mismatch (expected : node.rules.kind = some kind)
    (refused : settings.adapt? kind value = none) :
    nodeRequests settings node depth value = [] := by
  cases node
  rw [nodeRequests, expected]
  simp only [refused]
  exact ite_self []

theorem nodeRequests_content (shallow : ¬settings.maxDepth < depth)
    (expected : node.rules.kind = some kind) (adapted : settings.adapt? kind value = some content) :
    nodeRequests settings node depth value = contentRequests settings node depth content := by
  cases node
  rw [nodeRequests, if_neg shallow, expected]
  simp only [adapted]
  cases content <;> rfl

end Requests

end SchemaCheck
