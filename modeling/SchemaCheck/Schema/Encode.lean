import SchemaCheck.Schema.Basic

/-!
The document of a schema: an object with a field for each rule that the schema has. Fields stand in
order, absent rules and empty lists leave none, and the rules of the root node stand beside the
conditional keywords.
-/

namespace SchemaCheck

open Json (Value)

def fieldOf {α : Type} (name : String) (encode : α → Value) : Option α → List (String × Value)
  | none => []
  | some rule => [(name, encode rule)]

def listField (name : String) (texts : List String) : List (String × Value) :=
  if texts.isEmpty then [] else [(name, Value.strings texts)]

mutual

def Node.toValue : Node → Value
  | ⟨rules, items, properties⟩ =>
    .object (
      fieldOf "customValidator" Value.string rules.customValidator ++
      listField "enum" rules.allowed ++
      fieldOf "format" Value.string rules.format ++
      itemsField items ++
      fieldOf "maxLength" (fun n => Value.ofNat n.toNat) rules.maxLength ++
      fieldOf "maximum" Value.ofBinary64 rules.maximum ++
      fieldOf "minLength" (fun n => Value.ofNat n.toNat) rules.minLength ++
      fieldOf "minimum" Value.ofBinary64 rules.minimum ++
      fieldOf "pattern" Value.string rules.pattern ++
      propertiesField properties ++
      listField "required" rules.required ++
      fieldOf "type" (fun kind => Value.string kind.name) rules.kind)

def itemsField : Option Node → List (String × Value)
  | none => []
  | some node => [("items", node.toValue)]

def propertiesField : List (String × Node) → List (String × Value)
  | [] => []
  | property :: rest => [("properties", .object (propertyFields (property :: rest)))]

def propertyFields : List (String × Node) → List (String × Value)
  | [] => []
  | (name, node) :: rest => (name, node.toValue) :: propertyFields rest

end

mutual

def Schema.toValue : Schema → Value
  | ⟨⟨rules, items, properties⟩, condition, consequence, alternative, allOf, anyOf, oneOf,
      negation⟩ =>
    .object (
      schemasField "allOf" allOf ++
      schemasField "anyOf" anyOf ++
      fieldOf "customValidator" Value.string rules.customValidator ++
      schemaField "else" alternative ++
      listField "enum" rules.allowed ++
      fieldOf "format" Value.string rules.format ++
      schemaField "if" condition ++
      itemsField items ++
      fieldOf "maxLength" (fun n => Value.ofNat n.toNat) rules.maxLength ++
      fieldOf "maximum" Value.ofBinary64 rules.maximum ++
      fieldOf "minLength" (fun n => Value.ofNat n.toNat) rules.minLength ++
      fieldOf "minimum" Value.ofBinary64 rules.minimum ++
      schemaField "not" negation ++
      schemasField "oneOf" oneOf ++
      fieldOf "pattern" Value.string rules.pattern ++
      propertiesField properties ++
      listField "required" rules.required ++
      schemaField "then" consequence ++
      fieldOf "type" (fun kind => Value.string kind.name) rules.kind)

def schemaField (name : String) : Option Schema → List (String × Value)
  | none => []
  | some schema => [(name, schema.toValue)]

def schemasField (name : String) : List Schema → List (String × Value)
  | [] => []
  | schema :: rest => [(name, .array (schemaValues (schema :: rest)))]

def schemaValues : List Schema → List Value
  | [] => []
  | schema :: rest => schema.toValue :: schemaValues rest

end

end SchemaCheck
