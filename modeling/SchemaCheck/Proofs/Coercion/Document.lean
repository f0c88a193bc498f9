import SchemaCheck.Coercion.Basic
import SchemaCheck.Proofs.Schema.Basic
import SchemaCheck.Proofs.Validation.Engine

/-!
Coercing on the way and coercing beforehand come to the same: what a lenient validation finds in a
value is what a strict one finds in the coerced document (`lenient_eq_strict_coerced`). Fields and
elements keep their places, and the standard custom validators see of an object or array only
whether it is empty.
-/

namespace SchemaCheck

open Json (Value)
open Reference

namespace Node

variable {rules : Rules} {items : Option Node} {properties : List (String × Node)} {kind : Kind}

theorem coerce_untyped (untyped : rules.kind = none) (value : Value) :
    coerce ⟨rules, items, properties⟩ value = value := by
  cases value <;> simp only [coerce, untyped]

theorem coerce_refused (expected : rules.kind = some kind) {value : Value}
    (refuses : kind.admits value = false) :
    coerce ⟨rules, items, properties⟩ value = kind.settle value := by
  cases value <;> simp only [coerce, expected, refuses, Bool.false_eq_true, if_false]

theorem coerce_object (expected : rules.kind = some .object) (fields : List (String × Value)) :
    coerce ⟨rules, items, properties⟩ (.object fields) =
      .object (coerceFields properties fields) := by
  simp only [coerce, expected, Kind.admits, if_true]

theorem coerce_array (expected : rules.kind = some .array) (values : List Value) :
    coerce ⟨rules, items, properties⟩ (.array values) = .array (coerceItems items values) := by
  simp only [coerce, expected, Kind.admits, if_true]

theorem coerce_scalar (expected : rules.kind = some kind) (scalar : kind.isScalar = true)
    {value : Value} (admits : kind.admits value = true) :
    coerce ⟨rules, items, properties⟩ value = value := by
  cases value with
  | object fields => cases kind <;> simp_all [Kind.admits, Kind.isScalar]
  | array values => cases kind <;> simp_all [Kind.admits, Kind.isScalar]
  | _ => simp only [coerce, expected, admits, if_true]

end Node

theorem Kind.container_cases {kind : Kind} (container : kind.isScalar = false) :
    kind = .object ∨ kind = .array := by
  cases kind <;> simp_all [isScalar]

section Fields

variable (properties : List (String × Node)) (fields : List (String × Value)) {name : String}

theorem get?_coerceFields_undeclared (undeclared : name ∉ properties.map Prod.fst) :
    Fields.get? (coerceFields properties fields) name = Fields.get? fields name := by
  induction properties generalizing fields with
  | nil => rw [coerceFields]
  | cons entry rest ih =>
    obtain ⟨other, node⟩ := entry
    simp only [List.map_cons, List.mem_cons, not_or] at undeclared
    rw [coerceFields, ih _ undeclared.2]
    split
    · rw [Fields.get?_insert, if_neg undeclared.1]
    · rfl

theorem get?_coerceFields_declared (sorted : Fields.Sorted properties) {node : Node}
    (declared : (name, node) ∈ properties) :
    Fields.get? (coerceFields properties fields) name =
      (Fields.get? fields name).map node.coerce := by
  induction properties generalizing fields with
  | nil => cases declared
  | cons entry rest ih =>
    obtain ⟨other, first⟩ := entry
    simp only [Fields.Sorted, List.map_cons, List.pairwise_cons] at sorted
    rw [coerceFields]
    cases declared with
    | head =>
      have once : name ∉ rest.map Prod.fst := fun again =>
        String.lt_irrefl name (sorted.1 name again)
      rw [get?_coerceFields_undeclared rest _ once]
      cases found : Fields.get? fields name with
      | none => rw [Option.map_none]; exact found
      | some value => rw [Option.map_some]; simp only [Fields.get?_insert, if_true]
    | tail _ later =>
      have different : name ≠ other := by
        rintro rfl
        exact String.lt_irrefl name (sorted.1 name (List.mem_map_of_mem later))
      rw [ih _ sorted.2 later]
      split
      · rw [Fields.get?_insert, if_neg different]
      · rfl

theorem has_coerceFields (name : String) :
    Fields.has (coerceFields properties fields) name = Fields.has fields name := by
  induction properties generalizing fields with
  | nil => rw [coerceFields]
  | cons entry rest ih =>
    obtain ⟨other, node⟩ := entry
    rw [coerceFields, ih]
    split
    next value found =>
      rw [Fields.has_insert]
      by_cases same : name = other
      · subst same
        simp [Fields.has, found]
      · simp [same]
    next => rfl

theorem isEmpty_coerceFields : (coerceFields properties fields).isEmpty = fields.isEmpty := by
  induction properties generalizing fields with
  | nil => rw [coerceFields]
  | cons entry rest ih =>
    obtain ⟨other, node⟩ := entry
    rw [coerceFields, ih]
    split
    next value found =>
      have filled : fields ≠ [] := by
        rintro rfl
        cases found
      simp [List.isEmpty_eq_false_iff.mpr filled, Fields.insert_ne_nil]
    next => rfl

end Fields

section StandardChecks

variable {name : String} {check : CustomCheck}

/-- Of an object a standard validator sees only whether it has fields. -/
theorem standard_object (standard : (name, check) ∈ CustomCheck.standard)
    {fields others : List (String × Value)} (same : others.isEmpty = fields.isEmpty)
    (path : String) : check (.object others) path = check (.object fields) path := by
  simp only [CustomCheck.standard, List.mem_cons, Prod.mk.injEq, List.not_mem_nil, or_false]
    at standard
  rcases standard with ⟨_, rfl⟩ | ⟨_, rfl⟩ | ⟨_, rfl⟩ | ⟨_, rfl⟩ | ⟨_, rfl⟩
  · simp only [CustomCheck.nonEmpty, same]
  all_goals rfl

theorem standard_array (standard : (name, check) ∈ CustomCheck.standard)
    {values others : List Value} (same : others.isEmpty = values.isEmpty)
    (path : String) : check (.array others) path = check (.array values) path := by
  simp only [CustomCheck.standard, List.mem_cons, Prod.mk.injEq, List.not_mem_nil, or_false]
    at standard
  rcases standard with ⟨_, rfl⟩ | ⟨_, rfl⟩ | ⟨_, rfl⟩ | ⟨_, rfl⟩ | ⟨_, rfl⟩
  · simp only [CustomCheck.nonEmpty, same]
  all_goals rfl

end StandardChecks

/-- Each of the names is unknown to the registry or stands for the standard validator. -/
def Registry.OnlyStandard (registry : Registry) (names : List String) : Prop :=
  ∀ name ∈ names, ∀ check, registry.lookup name = some check → (name, check) ∈ CustomCheck.standard

theorem Registry.standard_onlyStandard (names : List String) : standard.OnlyStandard names :=
  fun _ _ _ found => Fields.mem_ofList (Fields.mem_of_get? found)

theorem customFindings_congr {registry : Registry} {rules : Rules}
    (only : registry.OnlyStandard rules.customValidator.toList) (location : Location)
    {value other : Value} (same : ∀ name check, (name, check) ∈ CustomCheck.standard →
      ∀ path, check other path = check value path) :
    rules.customFindings registry location other =
      rules.customFindings registry location value := by
  unfold Rules.customFindings Rules.customViolations
  cases asked : rules.customValidator with
  | none => rfl
  | some name =>
    cases known : registry.lookup name with
    | none => simp only [known]
    | some check =>
      simp only [known, same name check (only name (by simp [asked]) check known)]

theorem adapt?_lenient_refused (maxDepth : Nat) {kind : Kind} {value : Value}
    (refuses : kind.admits value = false) :
    (ValidationSettings.lenient maxDepth).adapt? kind value =
      (ValidationSettings.strict maxDepth).adapt? kind (kind.settle value) := by
  unfold ValidationSettings.adapt? ValidationSettings.lenient ValidationSettings.strict Kind.settle
  cases scalar : kind.isScalar with
  | false => simp [refuses]
  | true =>
    cases coerced : kind.coerce? value with
    | none => simp [refuses]
    | some made => cases kept : kind.admits made <;> simp [refuses, kept, Option.filter]

section Agreement

variable {maxDepth : Nat} {registry : Registry}

/-- What is to be shown of a node, wherever it stands. -/
def CoercesAlike (maxDepth : Nat) (registry : Registry) (node : Node) : Prop :=
  ∀ (location : Location) (value : Value),
    nodeFindings (.lenient maxDepth) registry node location value =
      nodeFindings (.strict maxDepth) registry node location (node.coerce value)

theorem elementFindings_coerced {node : Node} (alike : CoercesAlike maxDepth registry node)
    (location : Location) (index : Nat) (values : List Value) :
    elementFindings (nodeFindings (.lenient maxDepth) registry node) location index values =
      elementFindings (nodeFindings (.strict maxDepth) registry node) location index
        (values.map node.coerce) := by
  induction values generalizing index with
  | nil => rfl
  | cons value rest ih =>
    rw [List.map_cons, elementFindings, elementFindings, alike (location.element index) value, ih]

theorem itemFindings_coerced {items : Option Node}
    (alike : ∀ node ∈ items, CoercesAlike maxDepth registry node) (location : Location)
    (values : List Value) :
    itemFindings (.lenient maxDepth) registry items location values =
      itemFindings (.strict maxDepth) registry items location (coerceItems items values) := by
  cases items with
  | none => simp only [itemFindings]
  | some node =>
    simp only [itemFindings, coerceItems]
    exact elementFindings_coerced (alike node rfl) location 0 values

/-- Fields of a part of the declarations, the document being coerced by all of them. -/
theorem propertyFindings_coerced {declared properties : List (String × Node)}
    (sorted : Fields.Sorted properties) (part : ∀ entry ∈ declared, entry ∈ properties)
    (alike : ∀ entry ∈ properties, CoercesAlike maxDepth registry entry.2) (location : Location)
    (fields : List (String × Value)) :
    propertyFindings (.lenient maxDepth) registry declared location fields =
      propertyFindings (.strict maxDepth) registry declared location
        (coerceFields properties fields) := by
  induction declared with
  | nil => simp only [propertyFindings]
  | cons entry rest ih =>
    obtain ⟨name, node⟩ := entry
    have member := part (name, node) List.mem_cons_self
    rw [propertyFindings, propertyFindings,
      ih fun entry later => part entry (List.mem_cons_of_mem _ later)]
    congr 1
    unfold fieldFindings
    rw [get?_coerceFields_declared properties fields sorted member]
    cases Fields.get? fields name with
    | none => rfl
    | some value => exact alike _ member (location.field name) value

theorem objectFindings_coerced {properties : List (String × Node)}
    (sorted : Fields.Sorted properties)
    (alike : ∀ entry ∈ properties, CoercesAlike maxDepth registry entry.2) (rules : Rules)
    (items : Option Node) (location : Location) (fields : List (String × Value)) :
    contentFindings (.lenient maxDepth) registry ⟨rules, items, properties⟩ location
        (.object fields) =
      contentFindings (.strict maxDepth) registry ⟨rules, items, properties⟩ location
        (.object (coerceFields properties fields)) := by
  have inside := propertyFindings_coerced sorted (fun _ member => member) alike location fields
  simp only [contentFindings, Rules.missingFindings, has_coerceFields, inside]

theorem arrayFindings_coerced {items : Option Node}
    (alike : ∀ node ∈ items, CoercesAlike maxDepth registry node) (rules : Rules)
    (properties : List (String × Node)) (location : Location) (values : List Value) :
    contentFindings (.lenient maxDepth) registry ⟨rules, items, properties⟩ location
        (.array values) =
      contentFindings (.strict maxDepth) registry ⟨rules, items, properties⟩ location
        (.array (coerceItems items values)) := by
  simp only [contentFindings, itemFindings_coerced alike location values]

theorem customFindings_object {rules : Rules}
    (only : registry.OnlyStandard rules.customValidator.toList)
    (properties : List (String × Node)) (location : Location) (fields : List (String × Value)) :
    rules.customFindings registry location (.object (coerceFields properties fields)) =
      rules.customFindings registry location (.object fields) :=
  customFindings_congr only location fun _ _ standard path =>
    standard_object standard (isEmpty_coerceFields properties fields) path

theorem customFindings_array {rules : Rules}
    (only : registry.OnlyStandard rules.customValidator.toList) (items : Option Node)
    (location : Location) (values : List Value) :
    rules.customFindings registry location (.array (coerceItems items values)) =
      rules.customFindings registry location (.array values) := by
  have emptiness : (coerceItems items values).isEmpty = values.isEmpty := by
    cases items <;> simp only [coerceItems, List.isEmpty_map]
  exact customFindings_congr only location fun _ _ standard path =>
    standard_array standard emptiness path

theorem contentFindings_scalar {kind : Kind} (scalar : kind.isScalar = true) {content : Value}
    (admits : kind.admits content = true) (settings other : ValidationSettings) (node : Node)
    (location : Location) :
    contentFindings settings registry node location content =
      contentFindings other registry node location content := by
  cases content with
  | object fields => cases kind <;> simp_all [Kind.admits, Kind.isScalar]
  | array values => cases kind <;> simp_all [Kind.admits, Kind.isScalar]
  | _ => rfl

/-- A node and a value of another kind: either both ways refuse it, or both go on with the same
scalar. -/
theorem nodeFindings_settled {node : Node} {location : Location} {kind : Kind} {value : Value}
    (shallow : ¬maxDepth < location.depth) (expected : node.rules.kind = some kind)
    (refuses : kind.admits value = false) :
    nodeFindings (.lenient maxDepth) registry node location value =
      nodeFindings (.strict maxDepth) registry node location (kind.settle value) := by
  have same := adapt?_lenient_refused maxDepth refuses
  cases admits : kind.admits (kind.settle value) with
  | false =>
    have strict := adapt?_strict_refused maxDepth admits
    rw [nodeFindings_mismatch shallow expected (same.trans strict),
      nodeFindings_mismatch shallow expected strict]
  | true =>
    have strict := adapt?_admitted (.strict maxDepth) admits
    have scalar : kind.isScalar = true := by
      cases container : kind.isScalar with
      | true => rfl
      | false => simp [Kind.settle, container, refuses] at admits
    rw [nodeFindings_content shallow expected (same.trans strict),
      nodeFindings_content shallow expected strict, contentFindings_scalar scalar admits]

theorem nodeFindings_coerced {node : Node} (sorted : node.Sorted)
    (only : registry.OnlyStandard node.checkNames) : CoercesAlike maxDepth registry node := by
  induction node using Node.induction with
  | step rules items properties ofItems ofProperties =>
    obtain ⟨own, sortedItems, sortedProperties⟩ := sorted
    have inItems : ∀ node ∈ items, CoercesAlike maxDepth registry node := by
      intro node member
      apply ofItems node member (sortedItems node member)
      exact fun name asked => only name (Node.mem_checkNames_item member asked)
    have inProperties : ∀ entry ∈ properties, CoercesAlike maxDepth registry entry.2 := by
      intro entry member
      apply ofProperties entry member (sortedProperties entry member)
      exact fun name asked => only name (Node.mem_checkNames_property member asked)
    have onlyOwn : registry.OnlyStandard rules.customValidator.toList := fun name asked =>
      only name (Node.mem_checkNames_own (Option.mem_toList.mp asked))
    intro location value
    by_cases deep : maxDepth < location.depth
    · rw [nodeFindings_deep deep, nodeFindings_deep deep]
      rfl
    cases expected : rules.kind with
    | none =>
      rw [nodeFindings_untyped deep expected, nodeFindings_untyped deep expected,
        Node.coerce_untyped expected]
    | some kind =>
      cases admits : kind.admits value with
      | false => rw [nodeFindings_settled deep expected admits, Node.coerce_refused expected admits]
      | true =>
        rw [nodeFindings_content deep expected (adapt?_admitted (.lenient maxDepth) admits)]
        cases scalar : kind.isScalar with
        | true =>
          rw [Node.coerce_scalar expected scalar admits, contentFindings_scalar scalar admits,
            nodeFindings_content deep expected (adapt?_admitted (.strict maxDepth) admits)]
        | false =>
          rcases Kind.container_cases scalar with rfl | rfl
          · cases value with
            | object fields =>
              rw [Node.coerce_object expected, nodeFindings_content deep expected
                (adapt?_admitted (.strict maxDepth) rfl)]
              simp only [Rules.proceeds, objectFindings_coerced own inProperties,
                customFindings_object onlyOwn]
            | _ => cases admits
          · cases value with
            | array values =>
              rw [Node.coerce_array expected, nodeFindings_content deep expected
                (adapt?_admitted (.strict maxDepth) rfl)]
              simp only [Rules.proceeds, arrayFindings_coerced inItems,
                customFindings_array onlyOwn]
            | _ => cases admits

end Agreement

/-- With either engine, a lenient validation gives the result of the strict validation of the
coerced document, where the custom validators that the schema asks for are standard ones or
unknown. -/
theorem lenient_eq_strict_coerced (schema : Schema) (registry : Registry) (maxDepth : Nat)
    (sorted : schema.node.Sorted) (only : registry.OnlyStandard schema.node.checkNames)
    {lenient strict : Validator} (isLenient : lenient.Ready (.lenient maxDepth) registry)
    (isStrict : strict.Ready (.strict maxDepth) registry) (value : Value) :
    ∃ result lenientNext strictNext,
      lenient.validate schema value = some (result, lenientNext) ∧
        strict.validate schema (schema.node.coerce value) = some (result, strictNext) := by
  obtain ⟨lenientNext, validated, _⟩ := isLenient.validate_eq schema value
  obtain ⟨strictNext, revalidated, _⟩ := isStrict.validate_eq schema (schema.node.coerce value)
  refine ⟨_, lenientNext, strictNext, validated, revalidated.trans ?_⟩
  unfold Reference.validate
  rw [nodeFindings_coerced sorted only]

/-- The numbers of a list that may not be empty are read on the way as they are beforehand. -/
theorem lenient_eq_strict_numbers :
    let numbers : Node := ⟨{ kind := some .array, customValidator := some "nonEmpty" },
      some (.ofKind .integer), []⟩
    let value := Value.array [.string "12", .string "many", .bool true]
    numbers.Sorted ∧ Registry.standard.OnlyStandard numbers.checkNames ∧
    ∃ result lenientNext strictNext,
      (Validator.create .optimized (.lenient 8)).validate (.ofNode numbers) value =
          some (result, lenientNext) ∧
        (Validator.create .reference (.strict 8)).validate (.ofNode numbers)
          (numbers.coerce value) = some (result, strictNext) := by
  intro numbers value
  have sorted : numbers.Sorted :=
    ⟨List.Pairwise.nil, fun _ member => Option.some.inj member ▸ Node.ofKind_sorted .integer,
      fun _ member => (nomatch member)⟩
  have only := Registry.standard_onlyStandard numbers.checkNames
  exact ⟨sorted, only, lenient_eq_strict_coerced (.ofNode numbers) .standard 8 sorted only
    (Validator.create_ready .optimized _) (Validator.create_ready .reference _) value⟩

end SchemaCheck
