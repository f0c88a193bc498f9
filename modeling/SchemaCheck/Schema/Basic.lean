import SchemaCheck.Schema.Kind

/-!
Schemas. A `Node` holds the rules for one value and the nodes of its parts; a `Schema` is a root
node with the conditional keywords of its document, which are kept but never checked.
-/

namespace SchemaCheck

/-- The rules of a node that speak about its own value. An absent bound is no bound. -/
structure Rules where
  kind : Option Kind := none
  format : Option String := none
  minimum : Option Binary64 := none
  maximum : Option Binary64 := none
  /-- Least length of a string in bytes. -/
  minLength : Option UInt64 := none
  /-- Greatest length of a string in bytes. -/
  maxLength : Option UInt64 := none
  pattern : Option String := none
  /-- The strings that are allowed; when there are none, all are. -/
  allowed : List String := []
  /-- Names that an object must have. -/
  required : List String := []
  customValidator : Option String := none
deriving DecidableEq

/-- A schema node: the rules for a value, the node of its elements, and the nodes of its fields. -/
structure Node where
  rules : Rules := {}
  items : Option Node := none
  properties : List (String × Node) := []

instance : Inhabited Node := ⟨{}⟩

namespace Node

def ofKind (kind : Kind) : Node := { rules := { kind := some kind } }

def array (items : Node) : Node := { ofKind .array with items := some items }

def withItems (node items : Node) : Node := { node with items := some items }

/-- Declares a field; a later declaration of the same name takes its place. -/
def withProperty (node : Node) (name : String) (property : Node) : Node :=
  { node with properties := Fields.insert name property node.properties }

/-- Makes a field required; a name is listed once. -/
def require (node : Node) (name : String) : Node :=
  if node.rules.required.contains name then node
  else { node with rules := { node.rules with required := node.rules.required ++ [name] } }

end Node

/-- A schema: its root node, and the schemas under its conditional keywords. -/
structure Schema where
  node : Node := {}
  condition : Option Schema := none
  consequence : Option Schema := none
  alternative : Option Schema := none
  allOf : List Schema := []
  anyOf : List Schema := []
  oneOf : List Schema := []
  negation : Option Schema := none

instance : Inhabited Schema := ⟨{}⟩

namespace Schema

def ofNode (node : Node) : Schema := { node }

def ofKind (kind : Kind) : Schema := ofNode (.ofKind kind)

def kind (schema : Schema) : Option Kind := schema.node.rules.kind

def withProperty (schema : Schema) (name : String) (property : Node) : Schema :=
  { schema with node := schema.node.withProperty name property }

def require (schema : Schema) (name : String) : Schema :=
  { schema with node := schema.node.require name }

def withNode (schema : Schema) (node : Node) : Schema := { schema with node }

def hasConditionals (schema : Schema) : Bool :=
  schema.condition.isSome || schema.consequence.isSome || schema.alternative.isSome ||
    !schema.allOf.isEmpty || !schema.anyOf.isEmpty || !schema.oneOf.isEmpty ||
    schema.negation.isSome

end Schema

section Sameness

/-- Bounds compare as numbers: the zeros are equal, and no number differs from itself. -/
def sameBound : Option Binary64 → Option Binary64 → Bool
  | none, none => true
  | some x, some y => x.sameValue y
  | _, _ => false

def Rules.same (a b : Rules) : Bool :=
  sameBound a.minimum b.minimum && sameBound a.maximum b.maximum &&
    decide ({ a with minimum := none, maximum := none } =
      { b with minimum := none, maximum := none })

mutual

def Node.same : Node → Node → Bool
  | ⟨rules, items, properties⟩, ⟨rules', items', properties'⟩ =>
    rules.same rules' && sameItems items items' && sameProperties properties properties'

def sameItems : Option Node → Option Node → Bool
  | none, none => true
  | some a, some b => a.same b
  | _, _ => false

def sameProperties : List (String × Node) → List (String × Node) → Bool
  | [], [] => true
  | (name, a) :: rest, (name', b) :: rest' => name == name' && a.same b && sameProperties rest rest'
  | _, _ => false

end

mutual

def Schema.same : Schema → Schema → Bool
  | ⟨node, condition, consequence, alternative, allOf, anyOf, oneOf, negation⟩,
    ⟨node', condition', consequence', alternative', allOf', anyOf', oneOf', negation'⟩ =>
    node.same node' && sameOption condition condition' && sameOption consequence consequence' &&
      sameOption alternative alternative' && sameList allOf allOf' && sameList anyOf anyOf' &&
      sameList oneOf oneOf' && sameOption negation negation'

def sameOption : Option Schema → Option Schema → Bool
  | none, none => true
  | some a, some b => a.same b
  | _, _ => false

def sameList : List Schema → List Schema → Bool
  | [], [] => true
  | a :: rest, b :: rest' => a.same b && sameList rest rest'
  | _, _ => false

end

end Sameness

end SchemaCheck
