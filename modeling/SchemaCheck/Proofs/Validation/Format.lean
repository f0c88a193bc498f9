import SchemaCheck.Proofs.Validation.Engine

/-!
The format of a string beside the other rules for it. Behind a pattern that is one, a format adds a
single finding, and only to a text that it does not accept (`nodeFindings_format`).
-/

namespace SchemaCheck

open Json (Value)

theorem TextFormat.ofName?_name (format : TextFormat) : ofName? format.name = some format := by
  cases format <;> decide

def Rules.withoutFormat (rules : Rules) : Rules := { rules with format := none }

def Node.withoutFormat (node : Node) : Node := { node with rules := node.rules.withoutFormat }

namespace Rules

variable {rules : Rules} {format : TextFormat}

theorem formatViolations_named (named : rules.format = some format.name) (text : String) :
    rules.formatViolations text =
      if format.accepts text then [] else [.notInFormat format.name] := by
  rw [formatViolations, named]
  simp only [TextFormat.ofName?_name]

def patternViolations (rules : Rules) (text : String) : List Violation :=
  match rules.pattern with
  | none => []
  | some source =>
    if (Pattern.ofText? source).any (·.isMatch text) then [] else [.patternMismatch source]

/-- Behind such a pattern everything is checked, the format at last. -/
theorem textViolations_compiles (rules : Rules)
    (compiles : ∀ source ∈ rules.pattern, Pattern.compiles source = true) (text : String) :
    rules.textViolations text =
      (rules.lengthViolations text ++ rules.patternViolations text ++
        rules.allowedViolations text ++ rules.formatViolations text, true) := by
  unfold textViolations patternViolations
  cases given : rules.pattern with
  | none => simp
  | some source =>
    obtain ⟨pattern, compiled⟩ := Option.isSome_iff_exists.mp (compiles source given)
    simp only [compiled, Option.any_some]
    cases pattern.isMatch text <;> simp

theorem textViolations_format (named : rules.format = some format.name)
    (compiles : ∀ source ∈ rules.pattern, Pattern.compiles source = true) (text : String) :
    (rules.textViolations text).1 = (rules.withoutFormat.textViolations text).1 ++
      if format.accepts text then [] else [.notInFormat format.name] := by
  rw [textViolations_compiles rules compiles, textViolations_compiles rules.withoutFormat compiles,
    formatViolations_named named]
  have silent : rules.withoutFormat.formatViolations text = [] := rfl
  rw [silent, List.append_nil]
  rfl

end Rules

namespace Reference

variable {settings : ValidationSettings} {registry : Registry} {node : Node} {location : Location}
  {format : TextFormat}

theorem nodeFindings_text (node : Node) (near : location.depth ≤ settings.maxDepth)
    (expected : node.rules.kind = some .string)
    (compiles : ∀ source ∈ node.rules.pattern, Pattern.compiles source = true) (text : String) :
    nodeFindings settings registry node location (.string text) =
      (node.rules.textViolations text).1.map (Finding.mk location.path) ++
        node.rules.customFindings registry location (.string text) := by
  have proceeds : node.rules.proceeds (.string text) = true := by
    rw [Rules.proceeds, Rules.textViolations_compiles _ compiles]
  rw [nodeFindings_content (Nat.not_lt.mpr near) expected (adapt?_admitted settings rfl),
    if_pos proceeds]
  rfl

/-- A format adds one finding to those of the other rules, if the text does not have it. -/
theorem nodeFindings_format (registry : Registry) (near : location.depth ≤ settings.maxDepth)
    (expected : node.rules.kind = some .string) (named : node.rules.format = some format.name)
    (compiles : ∀ source ∈ node.rules.pattern, Pattern.compiles source = true) (text : String) :
    ∃ before after,
      nodeFindings settings registry node.withoutFormat location (.string text) =
        before ++ after ∧
      nodeFindings settings registry node location (.string text) =
        before ++ (if format.accepts text then [] else [⟨location.path, .notInFormat format.name⟩]) ++
          after := by
  refine ⟨(node.rules.withoutFormat.textViolations text).1.map (Finding.mk location.path),
    node.rules.customFindings registry location (.string text), ?_, ?_⟩
  · exact nodeFindings_text node.withoutFormat near expected compiles text
  · rw [nodeFindings_text node near expected compiles, Rules.textViolations_format named compiles,
      List.map_append]
    cases format.accepts text <;> rfl

end Reference

end SchemaCheck
