import SchemaCheck.Coercion.Container
import SchemaCheck.Commands.Coerce
import SchemaCheck.Proofs.Coercion.Json
import SchemaCheck.Proofs.Json.Spacing
import SchemaCheck.Proofs.Json.Exact
import SchemaCheck.Proofs.Validation.Engine

/-!
The ways in which a value gets into the program come to the same. Written as JSON text it is
validated as it is itself, and wherever a text is read as JSON it comes back (`inputs_agree`).
-/

namespace SchemaCheck

open Json (Value)

section Readers

variable {value : Value}

theorem toArray?_compact {items : List Value}
    (read : Json.parse (Value.array items).compact = .ok (.array items)) :
    Coercion.toArray? (.string (Value.array items).compact) = some items := by
  rw [Coercion.toArray?, readText?_compact read]

theorem toObject?_compact {fields : List (String × Value)}
    (read : Json.parse (Value.object fields).compact = .ok (.object fields)) :
    Coercion.toObject? (.string (Value.object fields).compact) = some fields := by
  rw [Coercion.toObject?, readText?_compact read]

theorem input_compact (read : Json.parse value.compact = .ok value)
    {task : CommandLine.CoerceTask} (given : task.value = value.compact) : task.input = value := by
  rw [CommandLine.CoerceTask.input, given, Json.parse?, read]
  rfl

end Readers

/-- A value that nests at most 127 deep, and whose real numbers are read exactly, is validated alike
as JSON text, as a document and as a value, by either engine in whatever state it is. From its text
it is read back by coercion to JSON, to an array and to an object, and by the command that
coerces. -/
theorem inputs_agree (schema : Schema) {settings : ValidationSettings} {registry : Registry}
    {value : Value} (sorted : value.Sorted) (near : value.nesting ≤ 127)
    (exactly : ∀ x ∈ value.reals, x.ReadExactly) {textual structural direct : Validator}
    (isTextual : textual.Ready settings registry)
    (isStructural : structural.Ready settings registry)
    (isDirect : direct.Ready settings registry) :
    (∃ result textualNext structuralNext directNext,
      textual.validateText schema value.compact = some (.ok result, textualNext) ∧
      structural.validateDocument schema (.ofValue value) = some (.ok result, structuralNext) ∧
      direct.validate schema value = some (result, directNext)) ∧
    Coercion.decode? (.string value.compact) = some value ∧
    (∀ items, value = .array items → Coercion.toArray? (.string value.compact) = some items) ∧
    (∀ fields, value = .object fields →
      Coercion.toObject? (.string value.compact) = some fields) ∧
    ∀ task : CommandLine.CoerceTask, task.value = value.compact → task.input = value := by
  have read : Json.parse value.compact = .ok value := Json.parse_compact sorted exactly near
  refine ⟨?_, readText?_compact read, ?_, ?_, fun task given => input_compact read given⟩
  · obtain ⟨textualNext, byText, _⟩ := isTextual.validateText_eq schema value.compact
    obtain ⟨structuralNext, byDocument, _⟩ :=
      isStructural.validateDocument_eq schema (.ofValue value)
    obtain ⟨directNext, byValue, _⟩ := isDirect.validate_eq schema value
    have meant : Reference.validateText settings registry schema value.compact =
        .ok (Reference.validate settings registry schema value) := by
      rw [Reference.validateText, read]
    rw [meant] at byText
    rw [Reference.validateDocument, Value.encode?_ofValue] at byDocument
    simp only [meant] at byDocument
    exact ⟨_, textualNext, structuralNext, directNext, byText, byDocument, byValue⟩
  · rintro items rfl
    exact toArray?_compact read
  · rintro fields rfl
    exact toObject?_compact read

/-- A record with an escaped text and a negative fraction is one input, in whatever way it comes. -/
theorem inputs_agree_record :
    let half : Binary64.Finite := ⟨true, twoTo 1073, by decide +kernel, by decide +kernel⟩
    let record := Value.object
      [("label", .string "a\t\"b\""), ("sizes", .array [.number (.real half)])]
    record.Sorted ∧ record.nesting ≤ 127 ∧ (∀ x ∈ record.reals, x.ReadExactly) ∧
    (∃ result textualNext structuralNext directNext,
      (Validator.create .optimized (.strict 8)).validateText (.ofKind .object) record.compact =
        some (.ok result, textualNext) ∧
      (Validator.create .reference (.strict 8)).validateDocument (.ofKind .object)
        (.ofValue record) = some (.ok result, structuralNext) ∧
      (Validator.create .reference (.strict 8)).validate (.ofKind .object) record =
        some (result, directNext)) ∧
    Coercion.decode? (.string record.compact) = some record := by
  intro half record
  have sorted : record.Sorted := by
    refine .object (by decide) fun field member => ?_
    rcases List.mem_cons.mp member with rfl | member
    · exact .string _
    · obtain rfl := List.mem_singleton.mp member
      refine .array fun item member => ?_
      obtain rfl := List.mem_singleton.mp member
      exact .number _
  have near : record.nesting ≤ 127 := by decide
  have exactly : ∀ x ∈ record.reals, x.ReadExactly := by
    intro x member
    obtain rfl : x = half := List.mem_singleton.mp member
    exact Json.readExactly_of_short (by decide +kernel) (by decide +kernel)
  obtain ⟨validated, decoded, _⟩ := inputs_agree (.ofKind .object) sorted near exactly
    (Validator.create_ready .optimized (.strict 8)) (Validator.create_ready .reference (.strict 8))
    (Validator.create_ready .reference (.strict 8))
  exact ⟨sorted, near, exactly, validated, decoded⟩

end SchemaCheck
