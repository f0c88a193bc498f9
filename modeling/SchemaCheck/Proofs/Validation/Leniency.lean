import Mathlib.Data.List.Basic
import SchemaCheck.Proofs.Validation.Engine
import SchemaCheck.Proofs.Validation.Traversal

/-!
Coercing validation beside strict validation. Both visit the same places, and they find the same at
each place but those whose node is of a scalar kind that the value does not have
(`Visit.reports_lenient`). Such a place does not stay hidden, since strict validation tells of it
(`Visit.reports_mismatched`). So where strict validation tells of no such place, the two have the
same result (`leniency_confined`).
-/

namespace SchemaCheck

open Json (Value)
open Reference

variable {maxDepth : Nat} {registry : Registry}

/-- Coercion is not consulted for a value of the kind, nor for a kind that is no scalar. -/
theorem adapt?_lenient {kind : Kind} {value : Value}
    (settled : kind.isScalar = true → kind.admits value = true) :
    (ValidationSettings.lenient maxDepth).adapt? kind value =
      (ValidationSettings.strict maxDepth).adapt? kind value := by
  cases admits : kind.admits value with
  | true => rw [adapt?_admitted _ admits, adapt?_admitted _ admits]
  | false =>
    have container : kind.isScalar = false :=
      Bool.eq_false_iff.mpr fun scalar => by simp [settled scalar] at admits
    simp [ValidationSettings.adapt?, admits, container]

namespace Visit

variable {visit : Visit}

/-- The place is looked into, and its node is of a scalar kind that the value does not have. -/
structure Mismatched (maxDepth : Nat) (visit : Visit) (kind : Kind) : Prop where
  near : visit.route.length ≤ maxDepth
  expected : visit.node.rules.kind = some kind
  scalar : kind.isScalar = true
  refuses : kind.admits visit.value = false

theorem reports_mismatched {kind : Kind} (mismatched : visit.Mismatched maxDepth kind) :
    visit.reports (.strict maxDepth) registry .opening =
      [⟨visit.location.path, .notOfKind kind⟩] := by
  obtain ⟨near, expected, _, refuses⟩ := mismatched
  have shallow : ¬(ValidationSettings.strict maxDepth).maxDepth < visit.route.length :=
    Nat.not_lt.mpr near
  simp only [reports, if_neg shallow, expected, adapt?_strict_refused maxDepth refuses]

/-- At all other places coercing validation finds what strict validation finds. -/
theorem reports_lenient (matched : ∀ kind, ¬visit.Mismatched maxDepth kind) (phase : Phase) :
    visit.reports (.lenient maxDepth) registry phase =
      visit.reports (.strict maxDepth) registry phase := by
  have same : (ValidationSettings.lenient maxDepth).maxDepth =
      (ValidationSettings.strict maxDepth).maxDepth := rfl
  by_cases near : visit.route.length ≤ maxDepth
  · cases expected : visit.node.rules.kind with
    | none => cases phase <;> simp only [reports, expected, same]
    | some kind =>
      have adapts : (ValidationSettings.lenient maxDepth).adapt? kind visit.value =
          (ValidationSettings.strict maxDepth).adapt? kind visit.value :=
        adapt?_lenient fun scalar => eq_true_of_ne_false fun refuses =>
          matched kind ⟨near, expected, scalar, refuses⟩
      cases phase <;> simp only [reports, expected, same, adapts]
  · have deep : (ValidationSettings.strict maxDepth).maxDepth < visit.route.length :=
      Nat.lt_of_not_le near
    cases phase <;> simp only [reports, same, if_pos deep]

end Visit

/-- Neither the node nor any of its parts is of a scalar kind. -/
inductive Node.Scalarless : Node → Prop where
  | intro {rules : Rules} {items : Option Node} {properties : List (String × Node)}
    (own : ∀ kind ∈ rules.kind, kind.isScalar = false) (ofItems : ∀ node ∈ items, Scalarless node)
    (ofProperties : ∀ entry ∈ properties, Scalarless entry.2) :
    Scalarless ⟨rules, items, properties⟩

theorem Node.Scalarless.parts {node : Node} (scalarless : node.Scalarless) :
    (∀ kind ∈ node.rules.kind, kind.isScalar = false) ∧
      (∀ inner ∈ node.items, inner.Scalarless) ∧
      ∀ entry ∈ node.properties, entry.2.Scalarless := by
  obtain ⟨own, ofItems, ofProperties⟩ := scalarless
  exact ⟨own, ofItems, ofProperties⟩

theorem Node.Scalarless.visited {start visit : Visit} (scalarless : start.node.Scalarless)
    (visited : Visit.Visited maxDepth start visit) : visit.node.Scalarless := by
  induction visited with
  | refl => exact scalarless
  | tail _ step ih =>
    cases step with
    | field _ _ declared _ => exact ih.parts.2.2 _ declared
    | element _ _ shape _ => exact ih.parts.2.1 _ shape

theorem Node.Scalarless.matched {visit : Visit} (scalarless : visit.node.Scalarless) (kind : Kind) :
    ¬visit.Mismatched maxDepth kind := by
  rintro ⟨_, expected, scalar, _⟩
  rw [scalarless.parts.1 kind expected] at scalar
  cases scalar

theorem nodeFindings_lenient {node : Node} {value : Value}
    (matched : ∀ visit, Visit.Visited maxDepth ⟨[], node, value⟩ visit →
      ∀ kind, ¬visit.Mismatched maxDepth kind) :
    nodeFindings (.lenient maxDepth) registry node .root value =
      nodeFindings (.strict maxDepth) registry node .root value := by
  have places (settings : ValidationSettings) :
      nodeFindings settings registry node .root value = _ := nodeFindings_reports node [] value
  rw [places, places]
  refine List.flatMap_congr fun event member => Visit.reports_lenient ?_ event.2
  exact matched event.1 ((mem_nodeEvents node [] value event.1 event.2).mp member)

theorem mem_nodeFindings_mismatched {node : Node} {value : Value} {visit : Visit} {kind : Kind}
    (visited : Visit.Visited maxDepth ⟨[], node, value⟩ visit)
    (mismatched : visit.Mismatched maxDepth kind) :
    ⟨visit.location.path, .notOfKind kind⟩ ∈
      nodeFindings (.strict maxDepth) registry node .root value := by
  have places : nodeFindings (.strict maxDepth) registry node .root value = _ :=
    nodeFindings_reports node [] value
  rw [places]
  refine List.mem_flatMap.mpr ⟨(visit, .opening), ?_, ?_⟩
  · exact (mem_nodeEvents node [] value visit .opening).mpr visited
  · rw [Visit.reports_mismatched mismatched]
    exact List.mem_singleton_self _

/-- No mismatched place is visited when strict validation tells of no scalar kind that it misses. -/
theorem matched_of_silent {node : Node} {value : Value}
    (silent : ∀ finding ∈ nodeFindings (.strict maxDepth) registry node .root value, ∀ kind,
      finding.violation = .notOfKind kind → kind.isScalar = false)
    {visit : Visit} (visited : Visit.Visited maxDepth ⟨[], node, value⟩ visit) (kind : Kind) :
    ¬visit.Mismatched maxDepth kind := by
  intro mismatched
  have container := silent _ (mem_nodeFindings_mismatched visited mismatched) kind rfl
  rw [mismatched.scalar] at container
  cases container

theorem validate_errors (settings : ValidationSettings) (registry : Registry) (schema : Schema)
    (value : Value) :
    (validate settings registry schema value).errors =
      (nodeEvents settings.maxDepth schema.node [] value).flatMap fun event =>
        (event.1.reports settings registry event.2).map Finding.message := by
  have places : nodeFindings settings registry schema.node .root value = _ :=
    nodeFindings_reports schema.node [] value
  rw [validate, ValidationResult.ofFindings, ValidationResult.ofErrors, places, List.map_flatMap]

/-- Of two validations with either engine, the one that coerces visits the places that the strict
one visits, and what the two list differs only by what they find at places of a scalar kind that the
value there does not have. When the strict one tells of no such place, the results are the same; so
what is valid for it stays valid, and without nodes of scalar kinds the two always agree. -/
theorem leniency_confined (schema : Schema) {taking coercing : Validator}
    (isStrict : taking.Ready (.strict maxDepth) registry)
    (isLenient : coercing.Ready (.lenient maxDepth) registry) (value : Value) :
    ∃ strict lenient strictNext lenientNext,
      taking.validate schema value = some (strict, strictNext) ∧
      coercing.validate schema value = some (lenient, lenientNext) ∧
      (∃ events : List (Visit × Phase),
        (∀ visit phase, (visit, phase) ∈ events ↔
          Visit.Visited maxDepth ⟨[], schema.node, value⟩ visit) ∧
        (strict.errors = events.flatMap fun event =>
          (event.1.reports (.strict maxDepth) registry event.2).map Finding.message) ∧
        (lenient.errors = events.flatMap fun event =>
          (event.1.reports (.lenient maxDepth) registry event.2).map Finding.message) ∧
        ∀ event ∈ events, (∀ kind, ¬event.1.Mismatched maxDepth kind) →
          event.1.reports (.lenient maxDepth) registry event.2 =
            event.1.reports (.strict maxDepth) registry event.2) ∧
      strict = .ofFindings (nodeFindings (.strict maxDepth) registry schema.node .root value) ∧
      ((∀ finding ∈ nodeFindings (.strict maxDepth) registry schema.node .root value, ∀ kind,
        finding.violation = .notOfKind kind → kind.isScalar = false) → lenient = strict) ∧
      (strict.valid = true → lenient.valid = true) ∧
      (schema.node.Scalarless → lenient = strict) := by
  obtain ⟨strictNext, validated, _⟩ := isStrict.validate_eq schema value
  obtain ⟨lenientNext, revalidated, _⟩ := isLenient.validate_eq schema value
  have agree (matched : ∀ visit, Visit.Visited maxDepth ⟨[], schema.node, value⟩ visit →
      ∀ kind, ¬visit.Mismatched maxDepth kind) :
      validate (.lenient maxDepth) registry schema value =
        validate (.strict maxDepth) registry schema value := by
    rw [validate, validate, nodeFindings_lenient matched]
  refine ⟨_, _, strictNext, lenientNext, validated, revalidated,
    ⟨nodeEvents maxDepth schema.node [] value, mem_nodeEvents schema.node [] value,
      validate_errors _ _ _ _, validate_errors _ _ _ _,
      fun event _ matched => Visit.reports_lenient matched event.2⟩,
    rfl, fun silent => agree fun _ => matched_of_silent silent, fun valid => ?_,
    fun scalarless => agree fun visit visited => (scalarless.visited visited).matched⟩
  have nothing : nodeFindings (.strict maxDepth) registry schema.node .root value = [] :=
    List.map_eq_nil_iff.mp (List.isEmpty_iff.mp valid)
  have silent : ∀ finding ∈ nodeFindings (.strict maxDepth) registry schema.node .root value,
      ∀ kind, finding.violation = .notOfKind kind → kind.isScalar = false := by
    intro finding member
    rw [nothing] at member
    cases member
  rw [agree fun _ => matched_of_silent silent]
  exact valid

/-- A record lacks a field, and the text of another one is too short. Strict validation says no more
than that, and neither does coercing validation. -/
theorem leniency_confined_record :
    let schema := Schema.ofNode (((Node.ofKind .object).require "name").withProperty "code"
      { rules := { kind := some .string, minLength := some 2 } })
    let value := Value.object [("code", .string "a")]
    let taking := Validator.create .reference (.strict 8)
    let coercing := Validator.create .optimized (.lenient 8)
    taking.Ready (.strict 8) .standard ∧ coercing.Ready (.lenient 8) .standard ∧
    ∃ strict lenient strictNext lenientNext,
      taking.validate schema value = some (strict, strictNext) ∧
      coercing.validate schema value = some (lenient, lenientNext) ∧
      strict.errors.length = 2 ∧ lenient = strict := by
  intro schema value taking coercing
  have isStrict : taking.Ready (.strict 8) .standard := Validator.create_ready .reference _
  have isLenient : coercing.Ready (.lenient 8) .standard := Validator.create_ready .optimized _
  obtain ⟨strict, lenient, strictNext, lenientNext, validated, revalidated, _, told, silent, _⟩ :=
    leniency_confined schema isStrict isLenient value
  have found : nodeFindings (.strict 8) .standard schema.node .root value =
      [⟨"name", .missing⟩, ⟨"code", .tooShort 2⟩] := by decide +kernel
  refine ⟨isStrict, isLenient, strict, lenient, strictNext, lenientNext, validated, revalidated,
    ?_, silent fun finding member kind mismatch => ?_⟩
  · rw [told, found]
    rfl
  · rw [found] at member
    rcases List.mem_pair.mp member with rfl | rfl <;> cases mismatch

end SchemaCheck
