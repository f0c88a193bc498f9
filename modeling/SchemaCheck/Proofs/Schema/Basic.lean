import SchemaCheck.Proofs.Fields
import SchemaCheck.Schema.Basic

/-!
Induction over schema nodes, the order in which a node holds its fields, the bounds that it sets to
numbers, and the custom validators that a node and its parts ask for. The schemas under the
conditional keywords of a schema, induction over them, and properties that the root nodes of a
schema and of all schemas inside it have.
-/

namespace SchemaCheck

namespace Node

/-- What holds of a node as soon as it holds of its parts holds of every node. -/
theorem induction {motive : Node → Prop}
    (step : ∀ rules items properties, (∀ node ∈ items, motive node) →
      (∀ entry ∈ properties, motive entry.2) → motive ⟨rules, items, properties⟩) (node : Node) :
    motive node := by
  refine @Node.rec motive (fun items => ∀ node ∈ items, motive node)
    (fun properties => ∀ entry ∈ properties, motive entry.2) (fun entry => motive entry.2)
    ?_ ?_ ?_ ?_ ?_ ?_ node
  · exact step
  · intro node member
    cases member
  · intro node holds inner member
    cases member
    exact holds
  · intro entry member
    cases member
  · intro entry rest first others inner member
    cases member with
    | head => exact first
    | tail _ later => exact others inner later
  · intro name node holds
    exact holds

/-- In the node and in all its parts the declared fields ascend by name, each declared once. -/
inductive Sorted : Node → Prop where
  | intro {rules : Rules} {items : Option Node} {properties : List (String × Node)}
    (own : Fields.Sorted properties) (ofItems : ∀ node ∈ items, Sorted node)
    (ofProperties : ∀ entry ∈ properties, Sorted entry.2) : Sorted ⟨rules, items, properties⟩

theorem Sorted.parts {node : Node} (sorted : node.Sorted) : Fields.Sorted node.properties ∧
    (∀ inner ∈ node.items, inner.Sorted) ∧ ∀ entry ∈ node.properties, entry.2.Sorted := by
  obtain ⟨own, ofItems, ofProperties⟩ := sorted
  exact ⟨own, ofItems, ofProperties⟩

theorem sorted_alone (rules : Rules) : Sorted { rules } :=
  ⟨List.Pairwise.nil, fun _ member => (nomatch member), fun _ member => (nomatch member)⟩

theorem ofKind_sorted (kind : Kind) : (ofKind kind).Sorted := sorted_alone _

theorem withItems_sorted {node items : Node} (sorted : node.Sorted) (ofItems : items.Sorted) :
    (node.withItems items).Sorted := by
  obtain ⟨own, _, ofProperties⟩ := sorted
  refine ⟨own, fun inner member => ?_, ofProperties⟩
  cases member
  exact ofItems

theorem withProperty_sorted {node property : Node} (sorted : node.Sorted) (name : String)
    (ofProperty : property.Sorted) : (node.withProperty name property).Sorted := by
  obtain ⟨own, ofItems, ofProperties⟩ := sorted
  refine ⟨Fields.sorted_insert own name property, ofItems, fun entry member => ?_⟩
  rcases Fields.mem_insert member with rfl | old
  · exact ofProperty
  · exact ofProperties entry old

end Node

structure Rules.Bounded (rules : Rules) : Prop where
  minimum : ∀ bound ∈ rules.minimum, ∃ x, bound = .finite x
  maximum : ∀ bound ∈ rules.maximum, ∃ x, bound = .finite x

/-- The node and all its parts set finite bounds only. -/
inductive Node.Bounded : Node → Prop where
  | intro {rules : Rules} {items : Option Node} {properties : List (String × Node)}
    (own : rules.Bounded) (ofItems : ∀ node ∈ items, Bounded node)
    (ofProperties : ∀ entry ∈ properties, Bounded entry.2) : Bounded ⟨rules, items, properties⟩

theorem Node.bounded_alone {rules : Rules} (own : rules.Bounded) : Bounded { rules } :=
  ⟨own, fun _ member => (nomatch member), fun _ member => (nomatch member)⟩

theorem Node.Bounded.parts {node : Node} (bounded : node.Bounded) : node.rules.Bounded ∧
    (∀ inner ∈ node.items, inner.Bounded) ∧ ∀ entry ∈ node.properties, entry.2.Bounded := by
  obtain ⟨own, ofItems, ofProperties⟩ := bounded
  exact ⟨own, ofItems, ofProperties⟩

mutual

/-- The names of the custom validators that a node and its parts ask for. -/
def Node.checkNames : Node → List String
  | ⟨rules, items, properties⟩ =>
    rules.customValidator.toList ++ itemCheckNames items ++ propertyCheckNames properties

def itemCheckNames : Option Node → List String
  | none => []
  | some node => node.checkNames

def propertyCheckNames : List (String × Node) → List String
  | [] => []
  | (_, node) :: rest => node.checkNames ++ propertyCheckNames rest

end

theorem mem_propertyCheckNames {properties : List (String × Node)} {entry : String × Node}
    (member : entry ∈ properties) {name : String} (asked : name ∈ entry.2.checkNames) :
    name ∈ propertyCheckNames properties := by
  induction properties with
  | nil => cases member
  | cons first rest ih =>
    rw [propertyCheckNames, List.mem_append]
    cases member with
    | head => exact .inl asked
    | tail _ later => exact .inr (ih later)

namespace Node

variable {rules : Rules} {items : Option Node} {properties : List (String × Node)} {name : String}

theorem mem_checkNames_own (asked : rules.customValidator = some name) :
    name ∈ checkNames ⟨rules, items, properties⟩ := by
  simp [checkNames, asked]

theorem mem_checkNames_item {node : Node} (member : node ∈ items) (asked : name ∈ node.checkNames) :
    name ∈ checkNames ⟨rules, items, properties⟩ := by
  cases member
  simp [checkNames, itemCheckNames, asked]

theorem mem_checkNames_property {entry : String × Node} (member : entry ∈ properties)
    (asked : name ∈ entry.2.checkNames) : name ∈ checkNames ⟨rules, items, properties⟩ := by
  rw [checkNames, List.mem_append]
  exact .inr (mem_propertyCheckNames member asked)

end Node

end SchemaCheck

namespace SchemaCheck.Schema

def parts (schema : Schema) : List Schema :=
  schema.condition.toList ++ schema.consequence.toList ++ schema.alternative.toList ++
    schema.allOf ++ schema.anyOf ++ schema.oneOf ++ schema.negation.toList

theorem mem_parts {schema part : Schema} : part ∈ schema.parts ↔
    part ∈ schema.condition ∨ part ∈ schema.consequence ∨ part ∈ schema.alternative ∨
      part ∈ schema.allOf ∨ part ∈ schema.anyOf ∨ part ∈ schema.oneOf ∨ part ∈ schema.negation := by
  simp only [parts, List.mem_append, Option.mem_toList, Option.mem_def, or_assoc]

/-- What holds of a schema as soon as it holds of the schemas inside it holds of every schema. -/
theorem induction {motive : Schema → Prop}
    (step : ∀ schema : Schema, (∀ part ∈ schema.parts, motive part) → motive schema)
    (schema : Schema) : motive schema := by
  refine @Schema.rec motive (fun part => ∀ schema ∈ part, motive schema)
    (fun schemas => ∀ schema ∈ schemas, motive schema) ?_ ?_ ?_ ?_ ?_ schema
  · intro node condition consequence alternative allOf anyOf oneOf negation ofCondition
      ofConsequence ofAlternative ofAll ofAny ofOne ofNegation
    refine step _ fun part member => ?_
    rcases mem_parts.mp member with here | here | here | here | here | here | here
    · exact ofCondition part here
    · exact ofConsequence part here
    · exact ofAlternative part here
    · exact ofAll part here
    · exact ofAny part here
    · exact ofOne part here
    · exact ofNegation part here
  · intro schema member
    cases member
  · intro part holds schema member
    cases member
    exact holds
  · intro schema member
    cases member
  · intro first rest holds others schema member
    cases member with
    | head => exact holds
    | tail _ later => exact others schema later

/-- The root nodes of the schema and of all schemas inside it have a property. -/
inductive Each (Fine : Node → Prop) : Schema → Prop where
  | intro {schema : Schema} (own : Fine schema.node)
    (ofParts : ∀ part ∈ schema.parts, Each Fine part) : Each Fine schema

variable {Fine : Node → Prop} {schema : Schema}

theorem Each.ofNode {node : Node} (own : Fine node) : (Schema.ofNode node).Each Fine :=
  .intro own fun _ member => (nomatch member)

theorem Each.node (each : schema.Each Fine) : Fine schema.node := by
  cases each
  assumption

theorem Each.part (each : schema.Each Fine) {part : Schema} (member : part ∈ schema.parts) :
    part.Each Fine := by
  cases each with
  | intro own ofParts => exact ofParts part member

end SchemaCheck.Schema
