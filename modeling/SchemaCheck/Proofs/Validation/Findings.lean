import SchemaCheck.Proofs.Schema.Basic
import SchemaCheck.Validation.Reference

/-!
The four ways in which a node meets a value: too deep, without a kind, of another kind, or with a
content that its rules speak about.
-/

namespace SchemaCheck

open Json (Value)

def ValidationSettings.lenient (maxDepth : Nat) : ValidationSettings := { coerce := true, maxDepth }

def ValidationSettings.strict (maxDepth : Nat) : ValidationSettings := { coerce := false, maxDepth }

theorem adapt?_admitted (settings : ValidationSettings) {kind : Kind} {value : Value}
    (admits : kind.admits value = true) : settings.adapt? kind value = some value := by
  rw [ValidationSettings.adapt?, if_pos admits]

theorem adapt?_strict_refused (maxDepth : Nat) {kind : Kind} {value : Value}
    (refuses : kind.admits value = false) :
    (ValidationSettings.strict maxDepth).adapt? kind value = none := by
  simp [ValidationSettings.adapt?, ValidationSettings.strict, refuses]

/-- Whatever a node goes on with has the kind of the node. -/
theorem adapt?_admits {settings : ValidationSettings} {kind : Kind} {value content : Value}
    (adapted : settings.adapt? kind value = some content) : kind.admits content = true := by
  unfold ValidationSettings.adapt? at adapted
  split at adapted
  next admits => exact Option.some.inj adapted ▸ admits
  next =>
    split at adapted
    · exact (Option.filter_eq_some_iff.mp adapted).2
    · cases adapted

namespace Rules

def customFindings (rules : Rules) (registry : Registry) (location : Location) (value : Value) :
    List Finding :=
  (rules.customViolations registry location.path value).map (Finding.mk location.path)

/-- Whether the custom validator is asked about a content: not behind a pattern that is none. -/
def proceeds (rules : Rules) : Value → Bool
  | .string text => (rules.textViolations text).2
  | _ => true

end Rules

namespace Reference

variable (settings : ValidationSettings) (registry : Registry)

/-- What is found in a value that has the kind of its node, in front of the custom validator. -/
def contentFindings (node : Node) (location : Location) : Value → List Finding
  | .object fields =>
    node.rules.missingFindings location fields ++
      propertyFindings settings registry node.properties location fields
  | .array values => itemFindings settings registry node.items location values
  | .string text => (node.rules.textViolations text).1.map (Finding.mk location.path)
  | .number n => (node.rules.numberViolations n.toBinary64).map (Finding.mk location.path)
  | _ => []

variable {settings registry} {node : Node} {location : Location} {value content : Value}
  {kind : Kind}

theorem nodeFindings_deep (deep : settings.maxDepth < location.depth) :
    nodeFindings settings registry node location value =
      [⟨location.path, .tooDeep settings.maxDepth⟩] := by
  cases node
  rw [nodeFindings, if_pos deep]
  rfl

theorem nodeFindings_untyped (shallow : ¬settings.maxDepth < location.depth)
    (untyped : node.rules.kind = none) :
    nodeFindings settings registry node location value =
      node.rules.customFindings registry location value := by
  cases node
  rw [nodeFindings, if_neg shallow, untyped]
  rfl

theorem nodeFindings_mismatch (shallow : ¬settings.maxDepth < location.depth)
    (expected : node.rules.kind = some kind) (refused : settings.adapt? kind value = none) :
    nodeFindings settings registry node location value = [⟨location.path, .notOfKind kind⟩] := by
  cases node
  rw [nodeFindings, if_neg shallow, expected]
  simp only [refused]
  rfl

theorem nodeFindings_content (shallow : ¬settings.maxDepth < location.depth)
    (expected : node.rules.kind = some kind) (adapted : settings.adapt? kind value = some content) :
    nodeFindings settings registry node location value =
      contentFindings settings registry node location content ++
        if node.rules.proceeds content then node.rules.customFindings registry location content
        else [] := by
  cases node
  rw [nodeFindings, if_neg shallow, expected]
  simp only [adapted]
  cases content <;> rfl

end Reference

end SchemaCheck
