import SchemaCheck.Proofs.Coercion.Document

/-!
The kind of a node decides which of its rules count. A node without the rules to which its kind
gives no meaning, at any depth below it, finds the same in every value and makes the same of every
document (`relevant_suffices`): what a node goes on with always has the kind of the node, so that
no rule for another kind is ever asked.
-/

namespace SchemaCheck

open Json (Value)
open Reference

section Definitions

/-- The rules to which the kind gives a meaning, and the custom validator, which every node may
have. -/
def Rules.relevant (rules : Rules) : Rules :=
  let bare : Rules := { kind := rules.kind, customValidator := rules.customValidator }
  match rules.kind with
  | some .string =>
    { bare with
      format := rules.format
      minLength := rules.minLength
      maxLength := rules.maxLength
      pattern := rules.pattern
      allowed := rules.allowed }
  | some .integer | some .number =>
    { bare with minimum := rules.minimum, maximum := rules.maximum }
  | some .object => { bare with required := rules.required }
  | some .array | some .boolean | none => bare

mutual

/-- The node with its relevant rules only. Just an object has fields to speak about, and just an
array has elements. -/
def Node.relevant : Node → Node
  | ⟨rules, items, properties⟩ =>
    ⟨rules.relevant, if rules.kind = some .array then relevantItems items else none,
      if rules.kind = some .object then relevantProperties properties else []⟩

def relevantItems : Option Node → Option Node
  | none => none
  | some node => some node.relevant

def relevantProperties : List (String × Node) → List (String × Node)
  | [] => []
  | (name, node) :: rest => (name, node.relevant) :: relevantProperties rest

end

end Definitions

namespace Rules

variable (rules : Rules)

theorem relevant_kind : rules.relevant.kind = rules.kind := by
  unfold relevant
  split <;> rfl

theorem relevant_customValidator : rules.relevant.customValidator = rules.customValidator := by
  unfold relevant
  split <;> rfl

theorem customFindings_relevant (registry : Registry) (location : Location) (value : Value) :
    rules.relevant.customFindings registry location value =
      rules.customFindings registry location value := by
  simp only [customFindings, customViolations, relevant_customValidator]

variable {rules}

theorem textViolations_relevant (expected : rules.kind = some .string) (text : String) :
    rules.relevant.textViolations text = rules.textViolations text := by
  simp only [relevant, expected, textViolations, lengthViolations, allowedViolations,
    formatViolations]

theorem numberViolations_relevant
    (expected : rules.kind = some .integer ∨ rules.kind = some .number) (x : Binary64) :
    rules.relevant.numberViolations x = rules.numberViolations x := by
  rcases expected with expected | expected <;> simp only [relevant, expected, numberViolations]

theorem missingFindings_relevant (expected : rules.kind = some .object) (location : Location)
    (fields : List (String × Value)) :
    rules.relevant.missingFindings location fields = rules.missingFindings location fields := by
  simp only [relevant, expected, missingFindings]

theorem proceeds_relevant {kind : Kind} {content : Value} (expected : rules.kind = some kind)
    (admits : kind.admits content = true) :
    rules.relevant.proceeds content = rules.proceeds content := by
  cases content with
  | string text =>
    obtain rfl : kind = .string := by cases kind <;> simp_all [Kind.admits]
    simp only [proceeds, textViolations_relevant expected]
  | _ => rfl

end Rules

section Findings

variable {settings : ValidationSettings} {registry : Registry}

/-- What is to be shown of a node: its relevant rules find what all of its rules find. -/
def FindsAlike (settings : ValidationSettings) (registry : Registry) (node : Node) : Prop :=
  ∀ (location : Location) (value : Value),
    nodeFindings settings registry node.relevant location value =
      nodeFindings settings registry node location value

theorem elementFindings_relevant {node : Node} (alike : FindsAlike settings registry node)
    (location : Location) (index : Nat) (values : List Value) :
    elementFindings (nodeFindings settings registry node.relevant) location index values =
      elementFindings (nodeFindings settings registry node) location index values := by
  induction values generalizing index with
  | nil => rfl
  | cons value rest ih => rw [elementFindings, elementFindings, alike, ih]

theorem itemFindings_relevant {items : Option Node}
    (alike : ∀ node ∈ items, FindsAlike settings registry node) (location : Location)
    (values : List Value) :
    itemFindings settings registry (relevantItems items) location values =
      itemFindings settings registry items location values := by
  cases items with
  | none => rw [relevantItems]
  | some node =>
    simp only [relevantItems, itemFindings]
    exact elementFindings_relevant (alike node rfl) location 0 values

theorem propertyFindings_relevant {properties : List (String × Node)}
    (alike : ∀ entry ∈ properties, FindsAlike settings registry entry.2) (location : Location)
    (fields : List (String × Value)) :
    propertyFindings settings registry (relevantProperties properties) location fields =
      propertyFindings settings registry properties location fields := by
  induction properties with
  | nil => rw [relevantProperties]
  | cons entry rest ih =>
    obtain ⟨name, node⟩ := entry
    have here : nodeFindings settings registry node.relevant =
        nodeFindings settings registry node := by
      funext location value
      exact alike (name, node) List.mem_cons_self location value
    rw [relevantProperties, propertyFindings, propertyFindings, here,
      ih fun entry later => alike entry (List.mem_cons_of_mem _ later)]

theorem contentFindings_relevant {rules : Rules} {items : Option Node}
    {properties : List (String × Node)}
    (ofItems : ∀ node ∈ items, FindsAlike settings registry node)
    (ofProperties : ∀ entry ∈ properties, FindsAlike settings registry entry.2) {kind : Kind}
    (expected : rules.kind = some kind) (location : Location) {content : Value}
    (admits : kind.admits content = true) :
    contentFindings settings registry (Node.relevant ⟨rules, items, properties⟩) location content =
      contentFindings settings registry ⟨rules, items, properties⟩ location content := by
  rw [Node.relevant]
  cases content with
  | object fields =>
    obtain rfl : kind = .object := by cases kind <;> simp_all [Kind.admits]
    simp only [contentFindings, if_pos expected, Rules.missingFindings_relevant expected,
      propertyFindings_relevant ofProperties]
  | array values =>
    obtain rfl : kind = .array := by cases kind <;> simp_all [Kind.admits]
    simp only [contentFindings, if_pos expected, itemFindings_relevant ofItems]
  | string text =>
    obtain rfl : kind = .string := by cases kind <;> simp_all [Kind.admits]
    simp only [contentFindings, Rules.textViolations_relevant expected]
  | number n =>
    have numeric : rules.kind = some .integer ∨ rules.kind = some .number := by
      cases kind <;> simp_all [Kind.admits]
    simp only [contentFindings, Rules.numberViolations_relevant numeric]
  | bool b => rfl
  | null => rfl

variable (settings registry) in
theorem nodeFindings_relevant (node : Node) : FindsAlike settings registry node := by
  induction node using Node.induction with
  | step rules items properties ofItems ofProperties =>
    intro location value
    by_cases deep : settings.maxDepth < location.depth
    · rw [nodeFindings_deep deep, nodeFindings_deep deep]
    have same : (Node.relevant ⟨rules, items, properties⟩).rules = rules.relevant := by
      rw [Node.relevant]
    have sameKind : (Node.relevant ⟨rules, items, properties⟩).rules.kind = rules.kind := by
      rw [same, Rules.relevant_kind]
    cases expected : rules.kind with
    | none =>
      rw [nodeFindings_untyped deep (sameKind.trans expected), nodeFindings_untyped deep expected,
        same, Rules.customFindings_relevant]
    | some kind =>
      cases adapted : settings.adapt? kind value with
      | none =>
        rw [nodeFindings_mismatch deep (sameKind.trans expected) adapted,
          nodeFindings_mismatch deep expected adapted]
      | some content =>
        have admits := adapt?_admits adapted
        rw [nodeFindings_content deep (sameKind.trans expected) adapted,
          nodeFindings_content deep expected adapted,
          contentFindings_relevant ofItems ofProperties expected location admits, same,
          Rules.proceeds_relevant expected admits, Rules.customFindings_relevant]

end Findings

section Coercion

theorem coerceItems_relevant {items : Option Node}
    (alike : ∀ node ∈ items, ∀ value, node.relevant.coerce value = node.coerce value)
    (values : List Value) :
    coerceItems (relevantItems items) values = coerceItems items values := by
  cases items with
  | none => rw [relevantItems]
  | some node =>
    simp only [relevantItems, coerceItems]
    exact List.map_congr_left fun value _ => alike node rfl value

theorem coerceFields_relevant {properties : List (String × Node)}
    (alike : ∀ entry ∈ properties, ∀ value, entry.2.relevant.coerce value = entry.2.coerce value)
    (fields : List (String × Value)) :
    coerceFields (relevantProperties properties) fields = coerceFields properties fields := by
  induction properties generalizing fields with
  | nil => rw [relevantProperties]
  | cons entry rest ih =>
    obtain ⟨name, node⟩ := entry
    rw [relevantProperties, coerceFields, coerceFields,
      ih fun entry later => alike entry (List.mem_cons_of_mem _ later)]
    cases Fields.get? fields name with
    | none => rfl
    | some value => simp only [alike (name, node) List.mem_cons_self value]

theorem Node.coerce_relevant (node : Node) (value : Value) :
    node.relevant.coerce value = node.coerce value := by
  induction node using Node.induction generalizing value with
  | step rules items properties ofItems ofProperties =>
    rw [Node.relevant]
    have sameKind := rules.relevant_kind
    cases expected : rules.kind with
    | none => rw [coerce_untyped (sameKind.trans expected), coerce_untyped expected]
    | some kind =>
      have sameExpected := sameKind.trans expected
      cases admits : kind.admits value with
      | false => rw [coerce_refused sameExpected admits, coerce_refused expected admits]
      | true =>
        cases scalar : kind.isScalar with
        | true =>
          rw [coerce_scalar sameExpected scalar admits, coerce_scalar expected scalar admits]
        | false =>
          rcases Kind.container_cases scalar with rfl | rfl
          · cases value with
            | object fields =>
              rw [coerce_object sameExpected, coerce_object expected, if_pos rfl,
                coerceFields_relevant ofProperties]
            | _ => cases admits
          · cases value with
            | array values =>
              rw [coerce_array sameExpected, coerce_array expected, if_pos rfl,
                coerceItems_relevant ofItems]
            | _ => cases admits

end Coercion

/-- With either engine, in whatever state, the relevant rules of a schema give the same result as
all of its rules, whichever conditional keywords stand beside them, and coercion makes the same of
every document. -/
theorem relevant_suffices (schema keywords : Schema) {settings : ValidationSettings}
    {registry : Registry} {full reduced : Validator} (isFull : full.Ready settings registry)
    (isReduced : reduced.Ready settings registry) (value : Value) :
    (∃ result fullNext reducedNext,
      full.validate schema value = some (result, fullNext) ∧
      reduced.validate (keywords.withNode schema.node.relevant) value =
        some (result, reducedNext)) ∧
    schema.node.relevant.coerce value = schema.node.coerce value := by
  refine ⟨?_, schema.node.coerce_relevant value⟩
  obtain ⟨fullNext, validated, _⟩ := isFull.validate_eq schema value
  obtain ⟨reducedNext, revalidated, _⟩ :=
    isReduced.validate_eq (keywords.withNode schema.node.relevant) value
  refine ⟨_, fullNext, reducedNext, validated, revalidated.trans ?_⟩
  unfold Reference.validate
  rw [Schema.withNode, nodeFindings_relevant]

/-- An age is read from a text without regard to a pattern and to allowed strings, which belong to
strings. -/
theorem relevant_suffices_age :
    let age : Node :=
      { rules := { kind := some .integer, pattern := some "(", allowed := ["old"] } }
    let person := (Node.ofKind .object).withProperty "age" age
    let settings := ValidationSettings.lenient 8
    let first := Validator.create .optimized settings
    let second := Validator.create .reference settings
    first.Ready settings .standard ∧ second.Ready settings .standard ∧
    ∃ result firstNext secondNext,
      first.validate (.ofNode person) (.object [("age", .string "12")]) =
        some (result, firstNext) ∧
      second.validate (.ofNode person.relevant) (.object [("age", .string "12")]) =
        some (result, secondNext) := by
  intro age person settings first second
  have isFirst : first.Ready settings .standard := Validator.create_ready .optimized settings
  have isSecond : second.Ready settings .standard := Validator.create_ready .reference settings
  exact ⟨isFirst, isSecond, (relevant_suffices (.ofNode person) {} isFirst isSecond _).1⟩

end SchemaCheck
