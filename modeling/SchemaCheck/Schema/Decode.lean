import SchemaCheck.Document
import SchemaCheck.Schema.Basic

/-!
Schemas from documents. The fields of a node may stand in any order, unknown ones are ignored, and
a known one must not be repeated. A node below the root may also be written as a sequence of its
rules in a fixed order, from which rules at the end may be missing. The conditional keywords
belong to schemas only: in a node below the root they are unknown.
-/

namespace SchemaCheck

/-- The names of the rules of a node, in the order of the sequence form. -/
def Node.fieldNames : List String :=
  ["type", "format", "minimum", "maximum", "minLength", "maxLength", "pattern", "enum", "items",
    "properties", "required", "customValidator"]

/-- A kind: its keyword, or a mapping from the keyword, or from its place among the kinds, to
nothing. -/
def Kind.ofDocument? : Document → Option Kind
  | .text keyword => ofKeyword? keyword
  | .mapping [(key, content)] => do
    let kind ←
      match key with
      | .text keyword => ofKeyword? keyword
      | .integer n => if 0 ≤ n then all[n.toNat]? else none
      | _ => none
    match content with
    | .null | .blank | .mapping [] => return kind
    | _ => none
  | _ => none

def Rules.set? (rules : Rules) (name : String) (d : Document) : Option Rules :=
  match name with
  | "type" => (d.optional? Kind.ofDocument?).map fun kind => { rules with kind }
  | "format" => (d.optional? Document.text?).map fun format => { rules with format }
  | "minimum" => (d.optional? Document.binary64?).map fun minimum => { rules with minimum }
  | "maximum" => (d.optional? Document.binary64?).map fun maximum => { rules with maximum }
  | "minLength" => (d.optional? Document.word?).map fun minLength => { rules with minLength }
  | "maxLength" => (d.optional? Document.word?).map fun maxLength => { rules with maxLength }
  | "pattern" => (d.optional? Document.text?).map fun pattern => { rules with pattern }
  | "enum" => d.texts?.map fun allowed => { rules with allowed }
  | "required" => d.texts?.map fun required => { rules with required }
  | "customValidator" =>
    (d.optional? Document.text?).map fun customValidator => { rules with customValidator }
  | _ => some rules

/-- The rule that a key stands for: by name, or by its place in the sequence form. None when it is
no key of a node at all, and an unknown name when it stands for no rule. -/
def Node.fieldOfKey? : Document → Option String
  | .text name => some name
  | .integer n => if 0 ≤ n then some (Node.fieldNames.getD n.toNat "") else none
  | _ => none

mutual

def Node.ofDocument? : Document → Option Node
  | .mapping entries => Node.ofEntries? [] {} entries
  | .sequence items => Node.ofSequence? Node.fieldNames {} items
  | _ => none

def Node.set? (node : Node) (name : String) : Document → Option Node
  | .mapping entries =>
    if name = "items" then
      (Node.ofEntries? [] {} entries).map fun items => { node with items := some items }
    else if name = "properties" then
      (propertyEntries? entries).map fun properties =>
        { node with properties := Fields.ofList properties }
    else (node.rules.set? name (.mapping entries)).map fun rules => { node with rules }
  | .sequence items =>
    if name = "items" then
      (Node.ofSequence? Node.fieldNames {} items).map fun items => { node with items := some items }
    else if name = "properties" then none
    else (node.rules.set? name (.sequence items)).map fun rules => { node with rules }
  | d =>
    if name = "items" then if d.isNull then some { node with items := none } else none
    else if name = "properties" then none
    else (node.rules.set? name d).map fun rules => { node with rules }

def Node.ofEntries? (seen : List String) (node : Node) :
    List (Document × Document) → Option Node
  | [] => some node
  | (key, content) :: rest => do
    let name ← Node.fieldOfKey? key
    if !Node.fieldNames.contains name then Node.ofEntries? seen node rest
    else if seen.contains name then none
    else
      let node ← node.set? name content
      Node.ofEntries? (name :: seen) node rest

def Node.ofSequence? (names : List String) (node : Node) : List Document → Option Node
  | [] => some node
  | content :: rest =>
    match names with
    | [] => none
    | name :: names => do
      let node ← node.set? name content
      Node.ofSequence? names node rest

def propertyEntries? : List (Document × Document) → Option (List (String × Node))
  | [] => some []
  | (key, content) :: rest => do
    let name ← key.text?
    let node ← Node.ofDocument? content
    let properties ← propertyEntries? rest
    return (name, node) :: properties

end

def Schema.singleKeywords : List String := ["if", "then", "else", "not"]

def Schema.listKeywords : List String := ["allOf", "anyOf", "oneOf"]

def Schema.fieldNames : List String :=
  Schema.singleKeywords ++ Schema.listKeywords ++ Node.fieldNames

def Schema.withSingle (schema : Schema) (keyword : String) (part : Option Schema) : Schema :=
  match keyword with
  | "if" => { schema with condition := part }
  | "then" => { schema with consequence := part }
  | "else" => { schema with alternative := part }
  | _ => { schema with negation := part }

def Schema.withList (schema : Schema) (keyword : String) (parts : List Schema) : Schema :=
  match keyword with
  | "allOf" => { schema with allOf := parts }
  | "anyOf" => { schema with anyOf := parts }
  | _ => { schema with oneOf := parts }

def Schema.setRule? (schema : Schema) (name : String) (d : Document) : Option Schema :=
  (schema.node.set? name d).map fun node => { schema with node }

mutual

def Schema.ofDocument? : Document → Option Schema
  | .mapping entries => Schema.ofEntries? [] {} entries
  | .blank => some {}
  | _ => none

def Schema.set? (schema : Schema) (name : String) : Document → Option Schema
  | .mapping entries =>
    if Schema.singleKeywords.contains name then
      (Schema.ofEntries? [] {} entries).map fun part => schema.withSingle name (some part)
    else if Schema.listKeywords.contains name then none
    else schema.setRule? name (.mapping entries)
  | .sequence items =>
    if Schema.singleKeywords.contains name then none
    else if Schema.listKeywords.contains name then
      (schemasOfItems? items).map (schema.withList name)
    else schema.setRule? name (.sequence items)
  | .blank =>
    if Schema.singleKeywords.contains name then some (schema.withSingle name none)
    else if Schema.listKeywords.contains name then some (schema.withList name [])
    else schema.setRule? name .blank
  | d =>
    if Schema.singleKeywords.contains name then
      if d.isNull then some (schema.withSingle name none) else none
    else if Schema.listKeywords.contains name then none
    else schema.setRule? name d

def Schema.ofEntries? (seen : List String) (schema : Schema) :
    List (Document × Document) → Option Schema
  | [] => some schema
  | (key, content) :: rest =>
    match key with
    | .text name =>
      if !Schema.fieldNames.contains name then
        Schema.ofEntries? seen schema rest
      else if seen.contains name then none
      else do
        let schema ← schema.set? name content
        Schema.ofEntries? (name :: seen) schema rest
    | _ => Schema.ofEntries? seen schema rest

def schemasOfItems? : List Document → Option (List Schema)
  | [] => some []
  | item :: rest => do
    let schema ← Schema.ofDocument? item
    let schemas ← schemasOfItems? rest
    return schema :: schemas

end

def Schema.ofValue? (value : Json.Value) : Option Schema := Schema.ofDocument? (.ofValue value)

end SchemaCheck
