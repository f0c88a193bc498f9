import SchemaCheck.Proofs.Validation.Traversal

/-!
A strict validation is exact. The value is valid when every visited place conforms to the rules of
its node, and the errors are what these rules find, for each visited place once and in the order of
the document (`validate_by_visits`).
-/

namespace SchemaCheck

open Json (Value)

namespace Rules

variable {rules : Rules} {text : String}

theorem lengthViolations_eq_nil_iff : rules.lengthViolations text = [] ↔
    (∀ least ∈ rules.minLength, least.toNat ≤ text.utf8ByteSize) ∧
      ∀ most ∈ rules.maxLength, text.utf8ByteSize ≤ most.toNat := by
  unfold lengthViolations
  cases rules.minLength <;> cases rules.maxLength <;> simp

theorem allowedViolations_eq_nil_iff :
    rules.allowedViolations text = [] ↔ rules.allowed = [] ∨ text ∈ rules.allowed := by
  unfold allowedViolations
  simp [or_iff_not_imp_left]

theorem formatViolations_eq_nil_iff : rules.formatViolations text = [] ↔
    ∀ name ∈ rules.format, ∃ format,
      TextFormat.ofName? name = some format ∧ format.accepts text = true := by
  unfold formatViolations
  cases rules.format with
  | none => simp
  | some name => cases known : TextFormat.ofName? name <;> simp [known]

theorem textViolations_eq_nil_iff :
    (rules.textViolations text).1 = [] ↔ rules.TextConforms text := by
  have conforms : rules.TextConforms text ↔ rules.lengthViolations text = [] ∧
      (∀ source ∈ rules.pattern, ∃ pattern,
        Pattern.ofText? source = some pattern ∧ pattern.isMatch text = true) ∧
      rules.allowedViolations text = [] ∧ rules.formatViolations text = [] := by
    rw [lengthViolations_eq_nil_iff, allowedViolations_eq_nil_iff, formatViolations_eq_nil_iff]
    exact ⟨fun ⟨long, short, pattern, allowed, format⟩ => ⟨⟨long, short⟩, pattern, allowed, format⟩,
      fun ⟨⟨long, short⟩, pattern, allowed, format⟩ => ⟨long, short, pattern, allowed, format⟩⟩
  rw [conforms]
  unfold textViolations
  cases rules.pattern with
  | none => simp
  | some source =>
    cases compiled : Pattern.ofText? source with
    | none => simp [compiled]
    | some pattern => cases matched : pattern.isMatch text <;> simp [compiled, matched]

theorem proceeds_of_conforms (conforms : rules.TextConforms text) :
    rules.proceeds (.string text) = true := by
  unfold proceeds textViolations
  cases asked : rules.pattern with
  | none => rfl
  | some source =>
    obtain ⟨pattern, compiled, matched⟩ := conforms.pattern source asked
    simp [compiled, matched]

theorem numberViolations_eq_nil_iff {x : Binary64} :
    rules.numberViolations x = [] ↔ rules.NumberConforms x := by
  have conforms : rules.NumberConforms x ↔ (∀ bound ∈ rules.minimum, x.lt bound = false) ∧
      ∀ bound ∈ rules.maximum, bound.lt x = false :=
    ⟨fun ⟨low, high⟩ => ⟨low, high⟩, fun ⟨low, high⟩ => ⟨low, high⟩⟩
  rw [conforms]
  unfold numberViolations
  cases rules.minimum <;> cases rules.maximum <;> simp

theorem missingFindings_eq_nil_iff {location : Location} {fields : List (String × Value)} :
    rules.missingFindings location fields = [] ↔
      ∀ name ∈ rules.required, Fields.has fields name = true := by
  unfold missingFindings
  simp

theorem customFindings_eq_nil_iff {registry : Registry} {location : Location} {value : Value} :
    rules.customFindings registry location value = [] ↔
      rules.CustomConforms registry location.path value := by
  unfold customFindings customViolations CustomConforms
  cases rules.customValidator with
  | none => simp
  | some name => cases known : registry.lookup name <;> simp [known]

end Rules

namespace Visit

variable {maxDepth : Nat} {registry : Registry} {visit : Visit}

theorem kindFindings_eq_nil_iff {kind : Kind} (admits : kind.admits visit.value = true) :
    visit.kindFindings kind visit.value = [] ↔
      visit.node.rules.KindConforms kind visit.value := by
  unfold kindFindings Rules.KindConforms
  cases value : visit.value <;> cases kind <;>
    simp_all [Kind.admits, Rules.textViolations_eq_nil_iff, Rules.numberViolations_eq_nil_iff,
      Rules.missingFindings_eq_nil_iff]

theorem admits_of_kindConforms {rules : Rules} {kind : Kind} {value : Value}
    (conforms : rules.KindConforms kind value) : kind.admits value = true := by
  cases kind <;> cases value <;> first | rfl | exact conforms.1 | cases conforms

theorem proceeds_of_kindConforms {rules : Rules} {kind : Kind} {value : Value}
    (conforms : rules.KindConforms kind value) : rules.proceeds value = true := by
  cases value with
  | string text =>
    cases kind with
    | string => exact Rules.proceeds_of_conforms conforms
    | _ => cases conforms
  | _ => rfl

/-- Nothing is found at a place itself exactly when it conforms. -/
theorem findings_eq_nil_iff :
    (∀ phase, visit.findings maxDepth registry phase = []) ↔ visit.Conforms maxDepth registry := by
  constructor
  · intro nothing
    have opening := nothing .opening
    have closing := nothing .closing
    simp only [findings] at opening closing
    by_cases deep : maxDepth < visit.route.length
    · rw [if_pos deep] at opening
      cases opening
    rw [if_neg deep] at opening closing
    have near : visit.route.length ≤ maxDepth := Nat.le_of_not_lt deep
    cases expected : visit.node.rules.kind with
    | none =>
      rw [expected] at closing
      exact ⟨near, by simp [expected], Rules.customFindings_eq_nil_iff.mp closing⟩
    | some kind =>
      simp only [expected] at opening closing
      split at opening
      next admits =>
        have conforms := (kindFindings_eq_nil_iff admits).mp opening
        simp only [Option.all_some, admits, proceeds_of_kindConforms conforms, Bool.true_and,
          if_true] at closing
        refine ⟨near, fun other same => ?_, Rules.customFindings_eq_nil_iff.mp closing⟩
        obtain rfl : kind = other := Option.some.inj (expected.symm.trans same)
        exact conforms
      next => cases opening
  · rintro ⟨near, kindConforms, custom⟩ phase
    have shallow : ¬maxDepth < visit.route.length := Nat.not_lt.mpr near
    cases phase with
    | opening =>
      rw [findings, if_neg shallow]
      cases expected : visit.node.rules.kind with
      | none => rfl
      | some kind =>
        have conforms := kindConforms kind expected
        have admits := admits_of_kindConforms conforms
        simp only [admits, if_true]
        exact (kindFindings_eq_nil_iff admits).mpr conforms
    | closing =>
      rw [findings, if_neg shallow]
      split
      · exact Rules.customFindings_eq_nil_iff.mpr custom
      · rfl

end Visit

namespace Reference

/-- A strict validation finds a value valid exactly when every visited place conforms. Its errors
are what is found at the visited places, each place once and all in the order of the document. -/
theorem validate_by_visits (maxDepth : Nat) (registry : Registry) {schema : Schema}
    (sorted : schema.node.Sorted) (value : Value) :
    ((validate (.strict maxDepth) registry schema value).valid = true ↔
      ∀ visit, Visit.Visited maxDepth ⟨[], schema.node, value⟩ visit →
        visit.Conforms maxDepth registry) ∧
    ∃ events : List (Visit × Phase), InOrder events ∧ events.Nodup ∧
      (∀ visit phase, (visit, phase) ∈ events ↔
        Visit.Visited maxDepth ⟨[], schema.node, value⟩ visit) ∧
      (validate (.strict maxDepth) registry schema value).errors =
        events.flatMap fun event =>
          (event.1.findings maxDepth registry event.2).map Finding.message := by
  have lists : nodeFindings (.strict maxDepth) registry schema.node .root value =
      (nodeEvents maxDepth schema.node [] value).flatMap fun event =>
        event.1.findings maxDepth registry event.2 := nodeFindings_events schema.node [] value
  have covers : CoversVisits maxDepth schema.node := mem_nodeEvents schema.node
  have members := covers [] value
  refine ⟨?_, nodeEvents maxDepth schema.node [] value, nodeEvents_inOrder sorted [] value,
    (nodeEvents_inOrder sorted [] value).nodup, members, ?_⟩
  · have valid : (validate (.strict maxDepth) registry schema value).valid = true ↔
        nodeFindings (.strict maxDepth) registry schema.node .root value = [] := by
      simp [validate, ValidationResult.ofFindings, ValidationResult.ofErrors]
    rw [valid, lists, List.flatMap_eq_nil_iff]
    constructor
    · intro nothing visit visited
      exact Visit.findings_eq_nil_iff.mp fun phase =>
        nothing (visit, phase) ((members visit phase).mpr visited)
    · intro conforms event member
      exact Visit.findings_eq_nil_iff.mpr (conforms event.1 ((members _ _).mp member)) event.2
  · rw [validate, ValidationResult.ofFindings, ValidationResult.ofErrors, lists, List.map_flatMap]

/-- In a list of people with names every place conforms. -/
theorem people_conform :
    let person := (Node.ofKind .object).withProperty "name" (.ofKind .string)
    let schema := Schema.ofNode (.array person)
    let people := Value.array
      [.object [("name", .string "Ada")], .object [("name", .string "Alan")]]
    schema.node.Sorted ∧
      ∀ visit, Visit.Visited 8 ⟨[], schema.node, people⟩ visit → visit.Conforms 8 .standard := by
  intro person schema people
  have own : person.Sorted :=
    Node.withProperty_sorted (Node.ofKind_sorted .object) "name" (Node.ofKind_sorted .string)
  have sorted : schema.node.Sorted := Node.withItems_sorted (Node.ofKind_sorted .array) own
  exact ⟨sorted, (validate_by_visits 8 .standard sorted people).1.mp (by decide)⟩

end Reference

end SchemaCheck
