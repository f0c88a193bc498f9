import SchemaCheck.Proofs.Json.Spacing
import SchemaCheck.Proofs.Schema.Decode
import SchemaCheck.Schema.Encode

/-!
A schema that is written as a document and loaded again is the same schema (`Schema.load_written`).
The fields of its document are read one after the other, and each of them sets the rule for which it
was written (`Schema.reads_fields`). As no field is written twice (`Schema.names_fields`), all of
them are read. A node below the root has the document of a schema without conditional keywords.
-/

namespace SchemaCheck

open Json (Value)
open scoped List

section Reading

variable {σ : Type}

/-- Read one after the other, the fields take a record from `start` to `finish`. -/
def Reads (set? : σ → String → Document → Option σ) (start finish : σ)
    (fields : List (String × Value)) : Prop :=
  fields.foldlM (fun record field => set? record field.1 (.ofValue field.2)) start = some finish

namespace Reads

variable {set? : σ → String → Document → Option σ} {start middle finish : σ}

theorem append {first second : List (String × Value)} (before : Reads set? start middle first)
    (after : Reads set? middle finish second) : Reads set? start finish (first ++ second) := by
  unfold Reads at *
  rw [List.foldlM_append, before]
  exact after

theorem cons {name : String} {value : Value} {rest : List (String × Value)} :
    Reads set? start finish ((name, value) :: rest) ↔
      ∃ middle, set? start name (.ofValue value) = some middle ∧
        Reads set? middle finish rest := by
  unfold Reads
  rw [List.foldlM_cons]
  exact Option.bind_eq_some_iff

theorem option {α : Type} {name : String} {encode : α → Value} {rule : Option α}
    (state : Option α → σ) (restored : state rule = finish)
    (set : ∀ a ∈ rule, set? (state none) name (.ofValue (encode a)) = some (state (some a))) :
    Reads set? (state none) finish (fieldOf name encode rule) := by
  subst restored
  cases rule with
  | none => rfl
  | some a => exact cons.mpr ⟨_, set a rfl, rfl⟩

theorem list {α : Type} {name : String} (encode : List α → Value) {rules : List α}
    (state : List α → σ) (restored : state rules = finish)
    (set : set? (state []) name (.ofValue (encode rules)) = some (state rules)) :
    Reads set? (state []) finish (if rules.isEmpty then [] else [(name, encode rules)]) := by
  subst restored
  cases rules with
  | nil => rfl
  | cons first rest => exact cons.mpr ⟨_, set, rfl⟩

end Reads

end Reading

section Fields

def Schema.fields (schema : Schema) : List (String × Value) :=
  schemasField "allOf" schema.allOf ++
  schemasField "anyOf" schema.anyOf ++
  fieldOf "customValidator" Value.string schema.node.rules.customValidator ++
  schemaField "else" schema.alternative ++
  listField "enum" schema.node.rules.allowed ++
  fieldOf "format" Value.string schema.node.rules.format ++
  schemaField "if" schema.condition ++
  itemsField schema.node.items ++
  fieldOf "maxLength" (fun n => Value.ofNat n.toNat) schema.node.rules.maxLength ++
  fieldOf "maximum" Value.ofBinary64 schema.node.rules.maximum ++
  fieldOf "minLength" (fun n => Value.ofNat n.toNat) schema.node.rules.minLength ++
  fieldOf "minimum" Value.ofBinary64 schema.node.rules.minimum ++
  schemaField "not" schema.negation ++
  schemasField "oneOf" schema.oneOf ++
  fieldOf "pattern" Value.string schema.node.rules.pattern ++
  propertiesField schema.node.properties ++
  listField "required" schema.node.rules.required ++
  schemaField "then" schema.consequence ++
  fieldOf "type" (fun kind => Value.string kind.name) schema.node.rules.kind

theorem Schema.toValue_eq (schema : Schema) : schema.toValue = .object schema.fields := by
  obtain ⟨⟨rules, items, properties⟩, condition, consequence, alternative, allOf, anyOf, oneOf,
    negation⟩ := schema
  rw [toValue]
  rfl

/-- A node has the document of the schema that consists of it alone. -/
theorem Node.toValue_eq (node : Node) : node.toValue = .object (Schema.ofNode node).fields := by
  obtain ⟨rules, items, properties⟩ := node
  delta Schema.fields
  simp only [toValue, Schema.ofNode, schemasField, schemaField, List.nil_append, List.append_nil]

theorem itemsField_eq (items : Option Node) :
    itemsField items = fieldOf "items" Node.toValue items := by
  cases items <;> simp only [itemsField, fieldOf]

theorem schemaField_eq (name : String) (part : Option Schema) :
    schemaField name part = fieldOf name Schema.toValue part := by
  cases part <;> simp only [schemaField, fieldOf]

theorem schemasField_eq (name : String) (parts : List Schema) :
    schemasField name parts =
      if parts.isEmpty then [] else [(name, .array (schemaValues parts))] := by
  cases parts <;> simp [schemasField]

theorem propertiesField_eq (properties : List (String × Node)) :
    propertiesField properties =
      if properties.isEmpty then [] else [("properties", .object (propertyFields properties))] := by
  cases properties <;> simp [propertiesField]

end Fields

section Rules

theorem ofValue_word (n : UInt64) : Document.ofValue (.ofNat n.toNat) = .integer n.toNat := by
  have low : -(signedBound : Int) ≤ (n.toNat : Int) := by omega
  have high : (n.toNat : Int) < (wordBound : Int) := by
    have bound : wordBound = 2 ^ 64 := by decide
    have := n.toNat_lt
    omega
  rw [Value.ofNat, Value.ofInt_integer _ low high, Document.ofValue]

theorem word?_ofNat (n : UInt64) : Document.word? (.integer n.toNat) = some n := by
  have bound : wordBound = 2 ^ 64 := by decide
  have := n.toNat_lt
  rw [Document.word?, if_pos ⟨by omega, by omega⟩, Int.toNat_natCast, UInt64.ofNat_toNat]

theorem texts?_strings (texts : List String) :
    ∃ items, Document.ofValue (.strings texts) = .sequence items ∧
      Document.texts? (.sequence items) = some texts := by
  refine ⟨texts.map .text, ?_, ?_⟩
  · rw [Value.strings, Document.ofValue, Document.ofItems_eq, List.map_map]
    rfl
  · induction texts with
    | nil => rfl
    | cons first rest ih =>
      rw [Document.texts?] at ih ⊢
      rw [List.map_cons, List.mapM_cons, ih]
      rfl

theorem Kind.ofDocument?_name (kind : Kind) : Kind.ofDocument? (.text kind.name) = some kind := by
  cases kind <;> rfl

end Rules

section Parts

/-- A node is what is read from its document. -/
def Node.Reloads (node : Node) : Prop := Node.ofDocument? (.ofValue node.toValue) = some node

def Schema.Reloads (schema : Schema) : Prop :=
  Schema.ofDocument? (.ofValue schema.toValue) = some schema

theorem Schema.set?_items {node : Node} (reloads : node.Reloads) (start : Schema) :
    start.set? "items" (.ofValue node.toValue) = some { start with node.items := some node } := by
  unfold Node.Reloads at reloads
  rw [Node.toValue_eq, Document.ofValue] at *
  rw [Node.ofDocument?] at reloads
  simp [set?, setRule?, Node.set?, singleKeywords, listKeywords, reloads]

theorem propertyEntries?_propertyFields {properties : List (String × Node)}
    (reloads : ∀ entry ∈ properties, entry.2.Reloads) :
    propertyEntries? (Document.ofFields (propertyFields properties)) = some properties := by
  induction properties with
  | nil => simp only [propertyFields, Document.ofFields, propertyEntries?]
  | cons entry rest ih =>
    obtain ⟨name, node⟩ := entry
    have here : Node.ofDocument? (.ofValue node.toValue) = some node :=
      reloads (name, node) List.mem_cons_self
    rw [propertyFields, Document.ofFields, propertyEntries?, here,
      ih fun entry later => reloads entry (List.mem_cons_of_mem _ later)]
    rfl

theorem Schema.set?_properties {properties : List (String × Node)}
    (sorted : Fields.Sorted properties) (reloads : ∀ entry ∈ properties, entry.2.Reloads)
    (start : Schema) :
    start.set? "properties" (.ofValue (.object (propertyFields properties))) =
      some { start with node.properties := properties } := by
  have read := propertyEntries?_propertyFields reloads
  rw [Document.ofValue]
  simp [set?, setRule?, Node.set?, singleKeywords, listKeywords, read, Fields.ofList_sorted sorted]

theorem Schema.set?_single {keyword : String} (single : singleKeywords.contains keyword = true)
    {part : Schema} (reloads : part.Reloads) (start : Schema) :
    start.set? keyword (.ofValue part.toValue) = some (start.withSingle keyword (some part)) := by
  unfold Reloads at reloads
  rw [toValue_eq, Document.ofValue] at *
  rw [ofDocument?] at reloads
  rw [set?, if_pos single, reloads]
  rfl

theorem schemasOfItems?_schemaValues {parts : List Schema}
    (reloads : ∀ part ∈ parts, part.Reloads) :
    schemasOfItems? (Document.ofItems (schemaValues parts)) = some parts := by
  induction parts with
  | nil => simp only [schemaValues, Document.ofItems, schemasOfItems?]
  | cons part rest ih =>
    have here : Schema.ofDocument? (.ofValue part.toValue) = some part :=
      reloads part List.mem_cons_self
    rw [schemaValues, Document.ofItems, schemasOfItems?, here,
      ih fun part later => reloads part (List.mem_cons_of_mem _ later)]
    rfl

theorem Schema.set?_list {keyword : String} (notSingle : singleKeywords.contains keyword = false)
    (list : listKeywords.contains keyword = true) {parts : List Schema}
    (reloads : ∀ part ∈ parts, part.Reloads) (start : Schema) :
    start.set? keyword (.ofValue (.array (schemaValues parts))) =
      some (start.withList keyword parts) := by
  rw [Document.ofValue, set?, if_neg (Bool.eq_false_iff.mp notSingle), if_pos list,
    schemasOfItems?_schemaValues reloads]
  rfl

end Parts

section Steps

/-- What is no conditional keyword is a rule of the root node. -/
theorem Schema.set?_own {name : String} (notSingle : singleKeywords.contains name = false)
    (notList : listKeywords.contains name = false) (start : Schema) (document : Document) :
    start.set? name document = (start.node.set? name document).map start.withNode := by
  cases document <;>
    simp only [set?, notSingle, notList, Bool.false_eq_true, if_false] <;> rfl

def Rules.fieldNames : List String :=
  Node.fieldNames.filter fun name => name != "items" && name != "properties"

def Schema.withRules (schema : Schema) (rules : Rules) : Schema :=
  schema.withNode { schema.node with rules }

theorem Schema.withRules_self (schema : Schema) : schema.withRules schema.node.rules = schema := by
  obtain ⟨⟨_, _, _⟩, _⟩ := schema
  rfl

theorem Schema.set?_rule {name : String} (rule : name ∈ Rules.fieldNames) (start : Schema)
    (document : Document) :
    start.set? name document = (start.node.rules.set? name document).map start.withRules := by
  have own : ∀ name ∈ Rules.fieldNames, singleKeywords.contains name = false ∧
    listKeywords.contains name = false ∧ name ≠ "items" ∧ name ≠ "properties" := by decide
  obtain ⟨notSingle, notList, notItems, notProperties⟩ := own name rule
  have ofNode : start.node.set? name document =
      (start.node.rules.set? name document).map fun rules => { start.node with rules } := by
    cases document <;> simp only [Node.set?, if_neg notItems, if_neg notProperties]
  rw [set?_own notSingle notList, ofNode, Option.map_map]
  rfl

variable (name : String) (finish : Schema)

theorem Schema.reads_rule {α : Type} {encode : α → Value} {rule : Option α}
    (decode : Document → Option α) (put : Rules → Option α → Rules)
    (stored : put finish.node.rules rule = finish.node.rules) (known : name ∈ Rules.fieldNames)
    (sets : ∀ rules document, Rules.set? (put rules none) name document =
      (document.optional? decode).map (put rules))
    (decodes : ∀ a ∈ rule, (Document.ofValue (encode a)).optional? decode = some (some a)) :
    Reads set? (finish.withRules (put finish.node.rules none)) finish
      (fieldOf name encode rule) := by
  refine .option (fun rule => finish.withRules (put finish.node.rules rule)) ?_ fun a member => ?_
  · rw [stored, withRules_self]
  · rw [set?_rule known]
    exact congrArg (Option.map _)
      ((sets finish.node.rules _).trans (congrArg (Option.map _) (decodes a member)))

theorem Schema.reads_texts {texts : List String} (put : Rules → List String → Rules)
    (stored : put finish.node.rules texts = finish.node.rules) (known : name ∈ Rules.fieldNames)
    (sets : ∀ rules document,
      Rules.set? (put rules []) name document = document.texts?.map (put rules)) :
    Reads set? (finish.withRules (put finish.node.rules [])) finish (listField name texts) := by
  refine .list Value.strings (fun texts => finish.withRules (put finish.node.rules texts)) ?_ ?_
  · rw [stored, withRules_self]
  · obtain ⟨items, same, read⟩ := texts?_strings texts
    rw [set?_rule known, same]
    exact congrArg (Option.map _)
      ((sets finish.node.rules _).trans (congrArg (Option.map _) read))

theorem Schema.reads_single {part : Option Schema} (put : Schema → Option Schema → Schema)
    (stored : put finish part = finish) (single : singleKeywords.contains name = true)
    (sets : ∀ schema part, (put schema none).withSingle name part = put schema part)
    (reloads : ∀ inner ∈ part, inner.Reloads) :
    Reads set? (put finish none) finish (schemaField name part) := by
  rw [schemaField_eq]
  exact .option (put finish) stored
    fun part member => by rw [set?_single single (reloads part member), sets]

theorem Schema.reads_list {parts : List Schema} (put : Schema → List Schema → Schema)
    (stored : put finish parts = finish)
    (list : singleKeywords.contains name = false ∧ listKeywords.contains name = true)
    (sets : ∀ schema parts, (put schema []).withList name parts = put schema parts)
    (reloads : ∀ part ∈ parts, part.Reloads) :
    Reads set? (put finish []) finish (schemasField name parts) := by
  rw [schemasField_eq]
  exact .list (fun parts => .array (schemaValues parts)) (put finish) stored
    (by rw [set?_list list.1 list.2 reloads, sets])

theorem Schema.reads_items {items : Option Node}
    (stored : { finish with node.items := items } = finish)
    (reloads : ∀ node ∈ items, node.Reloads) :
    Reads set? { finish with node.items := none } finish (itemsField items) := by
  rw [itemsField_eq]
  exact .option (fun items => { finish with node.items := items }) stored
    fun node member => set?_items (reloads node member) _

theorem Schema.reads_properties {properties : List (String × Node)}
    (stored : { finish with node.properties := properties } = finish)
    (sorted : Fields.Sorted properties) (reloads : ∀ entry ∈ properties, entry.2.Reloads) :
    Reads set? { finish with node.properties := [] } finish (propertiesField properties) := by
  rw [propertiesField_eq]
  exact .list (fun properties => .object (propertyFields properties))
    (fun properties => { finish with node.properties := properties }) stored
    (set?_properties sorted reloads _)

/-- The fields of a document set the rules for which they were written, one after the other. -/
theorem Schema.reads_fields {schema : Schema} (sorted : Fields.Sorted schema.node.properties)
    (bounded : schema.node.rules.Bounded) (ofItems : ∀ node ∈ schema.node.items, node.Reloads)
    (ofProperties : ∀ entry ∈ schema.node.properties, entry.2.Reloads)
    (ofParts : ∀ part ∈ schema.parts, part.Reloads) :
    Reads Schema.set? {} schema schema.fields := by
  simp only [mem_parts, or_imp, forall_and] at ofParts
  obtain ⟨ofCondition, ofConsequence, ofAlternative, ofAll, ofAny, ofOne, ofNegation⟩ := ofParts
  obtain ⟨⟨⟨kind, format, minimum, maximum, minLength, maxLength, pattern, allowed, required,
    customValidator⟩, items, properties⟩, condition, consequence, alternative, allOf, anyOf, oneOf,
    negation⟩ := schema
  have ofKind (kind : Kind) : (Document.ofValue (.string kind.name)).optional? Kind.ofDocument? =
      some (some kind) := by
    rw [Document.ofValue, Document.optional?, Kind.ofDocument?_name]
    rfl
  have ofWord (n : UInt64) : (Document.ofValue (.ofNat n.toNat)).optional? Document.word? =
      some (some n) := by
    rw [ofValue_word, Document.optional?, word?_ofNat]
    rfl
  have ofBound {bound : Option Binary64} (finite : ∀ x ∈ bound, ∃ y, x = .finite y) :
      ∀ x ∈ bound,
        (Document.ofValue (.ofBinary64 x)).optional? Document.binary64? = some (some x) := by
    intro x member
    obtain ⟨y, rfl⟩ := finite x member
    rfl
  -- The last field goes first: in front of it the schema lacks no rule but the one that it sets.
  refine .append ?_ (reads_rule "type" _ Kind.ofDocument?
    (fun rules kind => { rules with kind }) rfl (by decide) (fun _ _ => rfl)
    fun kind _ => ofKind kind)
  refine .append ?_ (reads_single "then" _
    (fun schema consequence => { schema with consequence }) rfl rfl (fun _ _ => rfl) ofConsequence)
  refine .append ?_ (reads_texts "required" _
    (fun rules required => { rules with required }) rfl (by decide) fun _ _ => rfl)
  refine .append ?_ (reads_properties _ rfl sorted ofProperties)
  refine .append ?_ (reads_rule "pattern" _ Document.text?
    (fun rules pattern => { rules with pattern }) rfl (by decide) (fun _ _ => rfl)
    fun _ _ => rfl)
  refine .append ?_ (reads_list "oneOf" _
    (fun schema oneOf => { schema with oneOf }) rfl ⟨rfl, rfl⟩ (fun _ _ => rfl) ofOne)
  refine .append ?_ (reads_single "not" _
    (fun schema negation => { schema with negation }) rfl rfl (fun _ _ => rfl) ofNegation)
  refine .append ?_ (reads_rule "minimum" _ Document.binary64?
    (fun rules minimum => { rules with minimum }) rfl (by decide) (fun _ _ => rfl)
    (ofBound bounded.minimum))
  refine .append ?_ (reads_rule "minLength" _ Document.word?
    (fun rules minLength => { rules with minLength }) rfl (by decide) (fun _ _ => rfl)
    fun n _ => ofWord n)
  refine .append ?_ (reads_rule "maximum" _ Document.binary64?
    (fun rules maximum => { rules with maximum }) rfl (by decide) (fun _ _ => rfl)
    (ofBound bounded.maximum))
  refine .append ?_ (reads_rule "maxLength" _ Document.word?
    (fun rules maxLength => { rules with maxLength }) rfl (by decide) (fun _ _ => rfl)
    fun n _ => ofWord n)
  refine .append ?_ (reads_items _ rfl ofItems)
  refine .append ?_ (reads_single "if" _
    (fun schema condition => { schema with condition }) rfl rfl (fun _ _ => rfl) ofCondition)
  refine .append ?_ (reads_rule "format" _ Document.text?
    (fun rules format => { rules with format }) rfl (by decide) (fun _ _ => rfl)
    fun _ _ => rfl)
  refine .append ?_ (reads_texts "enum" _
    (fun rules allowed => { rules with allowed }) rfl (by decide) fun _ _ => rfl)
  refine .append ?_ (reads_single "else" _
    (fun schema alternative => { schema with alternative }) rfl rfl (fun _ _ => rfl) ofAlternative)
  refine .append ?_ (reads_rule "customValidator" _ Document.text?
    (fun rules customValidator => { rules with customValidator }) rfl (by decide) (fun _ _ => rfl)
    fun _ _ => rfl)
  refine .append ?_ (reads_list "anyOf" _
    (fun schema anyOf => { schema with anyOf }) rfl ⟨rfl, rfl⟩ (fun _ _ => rfl) ofAny)
  exact reads_list "allOf" { allOf }
    (fun schema allOf => { schema with allOf }) rfl ⟨rfl, rfl⟩ (fun _ _ => rfl) ofAll

end Steps

section Names

theorem names_fieldOf {α : Type} (name : String) (encode : α → Value) (rule : Option α) :
    (fieldOf name encode rule).map Prod.fst <+ [name] := by
  cases rule <;> simp [fieldOf]

theorem names_list (name : String) (value : Value) (absent : Bool) :
    (if absent then [] else [(name, value)]).map Prod.fst <+ [name] := by
  cases absent <;> simp

theorem names_schemaField (name : String) (part : Option Schema) :
    (schemaField name part).map Prod.fst <+ [name] :=
  schemaField_eq name part ▸ names_fieldOf name _ part

theorem names_schemasField (name : String) (parts : List Schema) :
    (schemasField name parts).map Prod.fst <+ [name] :=
  schemasField_eq name parts ▸ names_list name _ _

theorem names_itemsField (items : Option Node) : (itemsField items).map Prod.fst <+ ["items"] :=
  itemsField_eq items ▸ names_fieldOf "items" _ items

theorem names_propertiesField (properties : List (String × Node)) :
    (propertiesField properties).map Prod.fst <+ ["properties"] :=
  propertiesField_eq properties ▸ names_list "properties" _ _

def Schema.fieldOrder : List String :=
  ["allOf", "anyOf", "customValidator", "else", "enum", "format", "if", "items", "maxLength",
    "maximum", "minLength", "minimum", "not", "oneOf", "pattern", "properties", "required", "then",
    "type"]

def Node.fieldOrder : List String :=
  ["customValidator", "enum", "format", "items", "maxLength", "maximum", "minLength", "minimum",
    "pattern", "properties", "required", "type"]

theorem names_append {first rest : List (String × Value)} {name : String} {names : List String}
    (here : first.map Prod.fst <+ [name]) (later : rest.map Prod.fst <+ names) :
    (first ++ rest).map Prod.fst <+ name :: names := by
  rw [List.map_append]
  exact here.append later

theorem Schema.names_fields (schema : Schema) : schema.fields.map Prod.fst <+ fieldOrder := by
  -- With so many lists appended, stating the equation of the definition would take long.
  delta fields
  simp only [List.append_assoc]
  exact names_append (names_schemasField _ _) <| names_append (names_schemasField _ _) <|
    names_append (names_fieldOf _ _ _) <| names_append (names_schemaField _ _) <|
    names_append (names_list _ _ _) <| names_append (names_fieldOf _ _ _) <|
    names_append (names_schemaField _ _) <| names_append (names_itemsField _) <|
    names_append (names_fieldOf _ _ _) <| names_append (names_fieldOf _ _ _) <|
    names_append (names_fieldOf _ _ _) <| names_append (names_fieldOf _ _ _) <|
    names_append (names_schemaField _ _) <| names_append (names_schemasField _ _) <|
    names_append (names_fieldOf _ _ _) <| names_append (names_propertiesField _) <|
    names_append (names_list _ _ _) <| names_append (names_schemaField _ _) <|
    names_fieldOf _ _ _

theorem Node.names_fields (node : Node) :
    (Schema.ofNode node).fields.map Prod.fst <+ fieldOrder := by
  delta Schema.fields
  simp only [Schema.ofNode, schemasField, schemaField, List.nil_append, List.append_nil,
    List.append_assoc]
  exact names_append (names_fieldOf _ _ _) <| names_append (names_list _ _ _) <|
    names_append (names_fieldOf _ _ _) <| names_append (names_itemsField _) <|
    names_append (names_fieldOf _ _ _) <| names_append (names_fieldOf _ _ _) <|
    names_append (names_fieldOf _ _ _) <| names_append (names_fieldOf _ _ _) <|
    names_append (names_fieldOf _ _ _) <| names_append (names_propertiesField _) <|
    names_append (names_list _ _ _) <| names_fieldOf _ _ _

end Names

section Loading

/-- A node reads the fields of a schema without conditional keywords as the schema does. -/
theorem Reads.own {start finish : Schema} {fields : List (String × Value)}
    (own : ∀ name ∈ fields.map Prod.fst, name ∈ Node.fieldNames)
    (reads : Reads Schema.set? start finish fields) :
    Reads Node.set? start.node finish.node fields := by
  induction fields generalizing start with
  | nil => exact congrArg (Option.map Schema.node) reads
  | cons field rest ih =>
    obtain ⟨name, value⟩ := field
    obtain ⟨middle, set, reads⟩ := Reads.cons.mp reads
    have notKeyword : ∀ name ∈ Node.fieldNames, Schema.singleKeywords.contains name = false ∧
      Schema.listKeywords.contains name = false := by decide
    obtain ⟨here, own⟩ := List.forall_mem_cons.mp own
    obtain ⟨notSingle, notList⟩ := notKeyword name here
    rw [Schema.set?_own notSingle notList] at set
    obtain ⟨node, ofNode, rfl⟩ := Option.map_eq_some_iff.mp set
    exact Reads.cons.mpr ⟨node, ofNode, ih own reads⟩

/-- A reader of entries that sets one rule after the other reads the fields, as long as it knows all
of them and none comes twice. -/
theorem Reads.entries {σ : Type} {set? : σ → String → Document → Option σ} {known : List String}
    {read : List String → σ → List (Document × Document) → Option σ}
    (done : ∀ seen record, read seen record [] = some record)
    (next : ∀ seen record name document rest, name ∈ known → name ∉ seen →
      read seen record ((.text name, document) :: rest) =
        (set? record name document).bind fun record => read (name :: seen) record rest)
    {start finish : σ} {fields : List (String × Value)} (reads : Reads set? start finish fields)
    (isKnown : ∀ name ∈ fields.map Prod.fst, name ∈ known) (distinct : (fields.map Prod.fst).Nodup)
    (seen : List String) (unseen : ∀ name ∈ fields.map Prod.fst, name ∉ seen) :
    read seen start (Document.ofFields fields) = some finish := by
  induction fields generalizing start seen with
  | nil =>
    rw [Document.ofFields, done]
    exact reads
  | cons field rest ih =>
    obtain ⟨name, value⟩ := field
    obtain ⟨middle, set, reads⟩ := Reads.cons.mp reads
    obtain ⟨fresh, distinct⟩ := List.nodup_cons.mp distinct
    obtain ⟨here, isKnown⟩ := List.forall_mem_cons.mp isKnown
    obtain ⟨new, unseen⟩ := List.forall_mem_cons.mp unseen
    rw [Document.ofFields, next seen start name _ _ here new, set]
    refine ih reads isKnown distinct (name :: seen) fun other later member => ?_
    rcases List.mem_cons.mp member with rfl | old
    · exact fresh later
    · exact unseen other later old

theorem Node.ofEntries?_reads {node : Node} {fields : List (String × Value)}
    (reads : Reads set? {} node fields) (isKnown : ∀ name ∈ fields.map Prod.fst, name ∈ fieldNames)
    (distinct : (fields.map Prod.fst).Nodup) :
    ofEntries? [] {} (Document.ofFields fields) = some node := by
  refine reads.entries (fun _ _ => by rw [ofEntries?]) ?_ isKnown distinct [] fun _ _ =>
    List.not_mem_nil
  intro seen record name document rest isKnown new
  simp [ofEntries?, fieldOfKey?, isKnown, new]

theorem Schema.ofEntries?_reads {schema : Schema} {fields : List (String × Value)}
    (reads : Reads set? {} schema fields)
    (isKnown : ∀ name ∈ fields.map Prod.fst, name ∈ fieldNames)
    (distinct : (fields.map Prod.fst).Nodup) :
    ofEntries? [] {} (Document.ofFields fields) = some schema := by
  refine reads.entries (fun _ _ => by rw [ofEntries?]) ?_ isKnown distinct [] fun _ _ =>
    List.not_mem_nil
  intro seen record name document rest isKnown new
  simp [ofEntries?, isKnown, new]

end Loading

theorem Node.reloads {node : Node} (sorted : node.Sorted) (bounded : node.Bounded) :
    node.Reloads := by
  induction node using Node.induction with
  | step rules items properties ofItems ofProperties =>
    obtain ⟨sorted, sortedItems, sortedProperties⟩ := sorted.parts
    obtain ⟨bounded, boundedItems, boundedProperties⟩ := bounded.parts
    have reads : Reads Schema.set? {} (.ofNode ⟨rules, items, properties⟩) _ :=
      Schema.reads_fields sorted bounded
        (fun node member => ofItems node member (sortedItems node member)
          (boundedItems node member))
        (fun entry member => ofProperties entry member (sortedProperties entry member)
          (boundedProperties entry member))
        (fun _ member => nomatch member)
    have names := Node.names_fields ⟨rules, items, properties⟩
    have isKnown : ∀ name ∈ (Schema.ofNode ⟨rules, items, properties⟩).fields.map Prod.fst,
        name ∈ Node.fieldNames := fun name member =>
      (by decide : fieldOrder ⊆ fieldNames) (names.subset member)
    have ofNode := reads.own isKnown
    unfold Reloads
    rw [toValue_eq, Document.ofValue, ofDocument?]
    exact ofEntries?_reads ofNode isKnown (names.nodup (by decide))

theorem Schema.reloads {schema : Schema} (sorted : schema.Each Node.Sorted)
    (bounded : schema.Each Node.Bounded) : schema.Reloads := by
  induction schema using Schema.induction with
  | step schema ofParts =>
    obtain ⟨ownSorted, sortedItems, sortedProperties⟩ := sorted.node.parts
    obtain ⟨ownBounded, boundedItems, boundedProperties⟩ := bounded.node.parts
    have reads : Reads set? {} schema schema.fields :=
      reads_fields ownSorted ownBounded
        (fun node member => Node.reloads (sortedItems node member) (boundedItems node member))
        (fun entry member => Node.reloads (sortedProperties entry member)
          (boundedProperties entry member))
        (fun part member => ofParts part member (sorted.part member) (bounded.part member))
    have names := schema.names_fields
    have isKnown : ∀ name ∈ schema.fields.map Prod.fst, name ∈ fieldNames := fun name member =>
      (by decide : fieldOrder ⊆ fieldNames) (names.subset member)
    unfold Reloads
    rw [toValue_eq, Document.ofValue, ofDocument?]
    exact ofEntries?_reads reads isKnown (names.nodup (by decide))

/-- A schema with finite bounds, all its properties in order, is loaded from its own document. So
whatever a schema was loaded from, the document that is written for it loads as the same schema. -/
theorem Schema.load_written :
    (∀ schema : Schema, schema.Each Node.Sorted → schema.Each Node.Bounded →
      ofValue schema.toValue = .ok schema) ∧
    (∀ value schema, ofValue value = .ok schema → ofValue schema.toValue = .ok schema) ∧
    ∀ text schema, ofJson text = .ok schema → ofValue schema.toValue = .ok schema := by
  have written (schema : Schema) (sorted : schema.Each Node.Sorted)
      (bounded : schema.Each Node.Bounded) : ofValue schema.toValue = .ok schema := by
    have reads : ofValue? schema.toValue = some schema := reloads sorted bounded
    rw [ofValue, reads]
  have again {value : Value} {schema : Schema} (decoded : ofValue? value = some schema) :
      ofValue schema.toValue = .ok schema :=
    written schema (ofDocument?_sorted decoded) (ofValue?_bounded decoded)
  refine ⟨written, fun value schema loaded => ?_, fun text schema loaded => ?_⟩
  · unfold ofValue at loaded
    split at loaded
    next decoded => exact Except.ok.inj loaded ▸ again decoded
    next => cases loaded
  · unfold ofJson at loaded
    split at loaded
    next => cases loaded
    next value _ =>
      split at loaded
      next decoded => exact Except.ok.inj loaded ▸ again decoded
      next => cases loaded

/-- A price that is an amount of nothing or more, and not a free one. -/
theorem Schema.load_written_price :
    let zero : Binary64.Finite := ⟨true, 0, by decide, by decide⟩
    let amount : Node := { rules := { kind := some .number, minimum := some (.finite zero) } }
    let free : Schema := .ofNode { rules := { required := ["free"] } }
    let price : Schema :=
      { node := { rules := { kind := some .object }, properties := [("amount", amount)] }
        negation := some free }
    let document : Value := .object [("else", .object []), ("anyOf", .array [])]
    (price.Each Node.Sorted ∧ price.Each Node.Bounded ∧ ofValue price.toValue = .ok price) ∧
    (∃ schema, ofValue document = .ok schema ∧ ofValue schema.toValue = .ok schema) ∧
    ∃ schema, ofJson document.compact = .ok schema ∧ ofValue schema.toValue = .ok schema := by
  intro zero amount free price document
  have sorted : price.Each Node.Sorted := by
    have ofRoot : price.node.Sorted := by
      refine ⟨List.pairwise_singleton _ _, fun _ member => (nomatch member), fun entry member => ?_⟩
      obtain rfl := List.mem_singleton.mp member
      exact Node.sorted_alone _
    refine .intro ofRoot fun part member => ?_
    obtain rfl := List.mem_singleton.mp member
    exact .ofNode (Node.sorted_alone _)
  have bounded : price.Each Node.Bounded := by
    have ofRoot : price.node.Bounded := by
      refine ⟨⟨fun _ member => (nomatch member), fun _ member => (nomatch member)⟩,
        fun _ member => (nomatch member), fun entry member => ?_⟩
      obtain rfl := List.mem_singleton.mp member
      exact Node.bounded_alone ⟨fun _ member => ⟨zero, (Option.some.inj member).symm⟩,
        fun _ member => (nomatch member)⟩
    refine .intro ofRoot fun part member => ?_
    obtain rfl := List.mem_singleton.mp member
    exact .ofNode (Node.bounded_alone
      ⟨fun _ member => (nomatch member), fun _ member => (nomatch member)⟩)
  have decoded : ofValue document = .ok { alternative := some {} } := rfl
  have loaded : ofJson document.compact = .ok { alternative := some {} } := by
    have noReals : document.reals = [] := by decide
    rw [ofJson, Json.readDocument_compact (noReals ▸ List.forall_mem_nil _) (by decide)]
    rfl
  exact ⟨⟨sorted, bounded, load_written.1 price sorted bounded⟩,
    ⟨_, decoded, load_written.2.1 document _ decoded⟩, _, loaded, load_written.2.2 _ _ loaded⟩

end SchemaCheck
