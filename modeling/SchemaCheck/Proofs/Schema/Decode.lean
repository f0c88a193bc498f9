import SchemaCheck.Proofs.Json.Value
import SchemaCheck.Proofs.Number.Rounding
import SchemaCheck.Proofs.Schema.Basic
import SchemaCheck.Schema.Load

/-!
What is decoded. A property that nodes keep while they are built is one of all nodes that come from
a document, and of all root nodes in a schema that does (`ofDocument?_each`). In this way a decoded
node declares its fields by ascending names, each of them once, however its document lists them
(`ofDocument?_sorted`), and from a JSON value it has no bounds but finite ones (`ofValue?_bounded`).
-/

namespace SchemaCheck

open Json (Value)

/-- What holds of a document as soon as it holds of its parts holds of every document. -/
theorem Document.induction {motive : Document → Prop} (null : motive .null)
    (blank : motive .blank) (bool : ∀ b, motive (.bool b)) (integer : ∀ n, motive (.integer n))
    (real : ∀ x, motive (.real x)) (text : ∀ s, motive (.text s))
    (sequence : ∀ items, (∀ item ∈ items, motive item) → motive (.sequence items))
    (mapping : ∀ entries, (∀ entry ∈ entries, motive entry.2) → motive (.mapping entries))
    (document : Document) : motive document := by
  refine @Document.rec motive (fun items => ∀ item ∈ items, motive item)
    (fun entries => ∀ entry ∈ entries, motive entry.2) (fun entry => motive entry.2)
    null blank bool integer real text sequence mapping ?_ ?_ ?_ ?_ ?_ document
  · intro item member
    cases member
  · intro first rest holds others item member
    cases member with
    | head => exact holds
    | tail _ later => exact others item later
  · intro entry member
    cases member
  · intro first rest holds others entry member
    cases member with
    | head => exact holds
    | tail _ later => exact others entry later
  · intro key content _ holds
    exact holds

namespace Node

/-- What a sort of documents passes on to the documents inside, and a property that nodes keep while
their rules and parts are read from such documents. -/
structure Kept (Sound : Document → Prop) (Fine : Node → Prop) : Prop where
  ofItem : ∀ {items : List Document} {item : Document}, Sound (.sequence items) → item ∈ items →
    Sound item
  ofEntry : ∀ {entries : List (Document × Document)} {entry : Document × Document},
    Sound (.mapping entries) → entry ∈ entries → Sound entry.2
  empty : Fine {}
  rule : ∀ {node : Node} {name : String} {document : Document} {rules : Rules}, Fine node →
    Sound document → node.rules.set? name document = some rules → Fine { node with rules }
  items : ∀ {node : Node} {items : Option Node}, Fine node → (∀ item ∈ items, Fine item) →
    Fine { node with items }
  properties : ∀ {node : Node} {properties : List (String × Node)}, Fine node →
    (∀ entry ∈ properties, Fine entry.2) → Fine { node with properties := Fields.ofList properties }

variable {Sound : Document → Prop} {Fine : Node → Prop}

/-- What is to be shown of a document: as a node it has the property, and so has a node one of whose
rules it becomes. -/
structure Keeps (Fine : Node → Prop) (document : Document) : Prop where
  node : ∀ node, Node.ofDocument? document = some node → Fine node
  rule : ∀ (node : Node) name result, Fine node → node.set? name document = some result →
    Fine result

variable {node result : Node}

theorem ofEntries?_keeps {entries : List (Document × Document)}
    (parts : ∀ entry ∈ entries, Keeps Fine entry.2) (seen : List String) (fine : Fine node)
    (decoded : Node.ofEntries? seen node entries = some result) : Fine result := by
  induction entries generalizing seen node with
  | nil =>
    rw [Node.ofEntries?] at decoded
    exact Option.some.inj decoded ▸ fine
  | cons entry rest ih =>
    obtain ⟨key, content⟩ := entry
    have others : ∀ entry ∈ rest, Keeps Fine entry.2 := fun entry later =>
      parts entry (List.mem_cons_of_mem _ later)
    rw [Node.ofEntries?] at decoded
    obtain ⟨name, _, decoded⟩ := Option.bind_eq_some_iff.mp decoded
    split at decoded
    · exact ih others seen fine decoded
    split at decoded
    · cases decoded
    obtain ⟨next, set, decoded⟩ := Option.bind_eq_some_iff.mp decoded
    have keeps : Keeps Fine content := parts (key, content) List.mem_cons_self
    exact ih others (name :: seen) (keeps.rule node name next fine set) decoded

theorem ofSequence?_keeps {items : List Document} (parts : ∀ item ∈ items, Keeps Fine item)
    (names : List String) (fine : Fine node)
    (decoded : Node.ofSequence? names node items = some result) : Fine result := by
  induction items generalizing names node with
  | nil =>
    rw [Node.ofSequence?] at decoded
    exact Option.some.inj decoded ▸ fine
  | cons content rest ih =>
    have others : ∀ item ∈ rest, Keeps Fine item := fun item later =>
      parts item (List.mem_cons_of_mem _ later)
    cases names with
    | nil => simp only [Node.ofSequence?, reduceCtorEq] at decoded
    | cons name names =>
      rw [Node.ofSequence?] at decoded
      obtain ⟨next, set, decoded⟩ := Option.bind_eq_some_iff.mp decoded
      have keeps : Keeps Fine content := parts content List.mem_cons_self
      exact ih others names (keeps.rule node name next fine set) decoded

theorem propertyEntries?_keeps {entries : List (Document × Document)}
    (parts : ∀ entry ∈ entries, Keeps Fine entry.2) {properties : List (String × Node)}
    (decoded : propertyEntries? entries = some properties) :
    ∀ property ∈ properties, Fine property.2 := by
  induction entries generalizing properties with
  | nil =>
    rw [propertyEntries?] at decoded
    obtain rfl := Option.some.inj decoded
    exact fun _ member => (nomatch member)
  | cons entry rest ih =>
    obtain ⟨key, content⟩ := entry
    rw [propertyEntries?] at decoded
    obtain ⟨name, _, decoded⟩ := Option.bind_eq_some_iff.mp decoded
    obtain ⟨part, first, decoded⟩ := Option.bind_eq_some_iff.mp decoded
    obtain ⟨others, later, decoded⟩ := Option.bind_eq_some_iff.mp decoded
    obtain rfl := Option.some.inj decoded
    intro property member
    cases member with
    | head => exact (parts (key, content) List.mem_cons_self).node part first
    | tail _ member =>
      exact ih (fun entry later => parts entry (List.mem_cons_of_mem _ later)) later property member

/-- A rule that is neither of the two for the parts leaves the parts as they are. -/
theorem setRules_keeps (kept : Kept Sound Fine) {name : String} {document : Document}
    (sound : Sound document) (fine : Fine node)
    (set : ((node.rules.set? name document).map fun rules => { node with rules }) = some result) :
    Fine result := by
  obtain ⟨rules, changed, rfl⟩ := Option.map_eq_some_iff.mp set
  exact kept.rule fine sound changed

theorem keeps_scalar (kept : Kept Sound Fine) {document : Document} (sound : Sound document)
    (notNode : Node.ofDocument? document = none)
    (rule : ∀ (node : Node) name, node.set? name document =
      if name = "items" then if document.isNull then some { node with items := none } else none
      else if name = "properties" then none
      else (node.rules.set? name document).map fun rules => { node with rules }) :
    Keeps Fine document := by
  refine ⟨fun node decoded => (nomatch notNode.symm.trans decoded), ?_⟩
  intro node name result fine set
  rw [rule] at set
  split at set
  · split at set
    · exact Option.some.inj set ▸ kept.items fine fun _ member => (nomatch member)
    · cases set
  · split at set
    · cases set
    · exact setRules_keeps kept sound fine set

theorem keeps (kept : Kept Sound Fine) {document : Document} (sound : Sound document) :
    Keeps Fine document := by
  induction document using Document.induction with
  | sequence items parts =>
    have ofItems : ∀ item ∈ items, Keeps Fine item := fun item member =>
      parts item member (kept.ofItem sound member)
    refine ⟨fun node decoded => ?_, fun node name result fine set => ?_⟩
    · rw [Node.ofDocument?] at decoded
      exact ofSequence?_keeps ofItems _ kept.empty decoded
    rw [Node.set?] at set
    split at set
    · obtain ⟨inner, decoded, rfl⟩ := Option.map_eq_some_iff.mp set
      have made := ofSequence?_keeps ofItems _ kept.empty decoded
      exact kept.items fine fun item member => Option.some.inj member ▸ made
    · split at set
      · cases set
      · exact setRules_keeps kept sound fine set
  | mapping entries parts =>
    have ofEntries : ∀ entry ∈ entries, Keeps Fine entry.2 := fun entry member =>
      parts entry member (kept.ofEntry sound member)
    refine ⟨fun node decoded => ?_, fun node name result fine set => ?_⟩
    · rw [Node.ofDocument?] at decoded
      exact ofEntries?_keeps ofEntries _ kept.empty decoded
    rw [Node.set?] at set
    split at set
    · obtain ⟨inner, decoded, rfl⟩ := Option.map_eq_some_iff.mp set
      have made := ofEntries?_keeps ofEntries _ kept.empty decoded
      exact kept.items fine fun item member => Option.some.inj member ▸ made
    · split at set
      · obtain ⟨properties, decoded, rfl⟩ := Option.map_eq_some_iff.mp set
        exact kept.properties fine (propertyEntries?_keeps ofEntries decoded)
      · exact setRules_keeps kept sound fine set
  | _ => exact keeps_scalar kept sound rfl fun _ _ => rfl

end Node

namespace Schema

variable {Sound : Document → Prop} {Fine : Node → Prop} {schema result : Schema}

theorem withNode_each (each : schema.Each Fine) {node : Node} (fine : Fine node) :
    (schema.withNode node).Each Fine :=
  ⟨fine, fun _ member => each.part member⟩

theorem withSingle_each (each : schema.Each Fine) (keyword : String) {part : Option Schema}
    (ofPart : ∀ inner ∈ part, inner.Each Fine) : (schema.withSingle keyword part).Each Fine := by
  have others : ∀ inner ∈ schema.parts, inner.Each Fine := fun _ member => each.part member
  simp only [mem_parts] at others
  unfold withSingle
  split
  all_goals
    refine ⟨each.node, fun inner member => ?_⟩
    rw [mem_parts] at member
    grind

theorem withList_each (each : schema.Each Fine) (keyword : String) {parts : List Schema}
    (ofParts : ∀ inner ∈ parts, inner.Each Fine) : (schema.withList keyword parts).Each Fine := by
  have others : ∀ inner ∈ schema.parts, inner.Each Fine := fun _ member => each.part member
  simp only [mem_parts] at others
  unfold withList
  split
  all_goals
    refine ⟨each.node, fun inner member => ?_⟩
    rw [mem_parts] at member
    grind

/-- What is to be shown of a document: as a schema it has the property throughout, and so has a
schema one of whose rules it becomes. -/
structure Keeps (Fine : Node → Prop) (document : Document) : Prop where
  schema : ∀ schema, ofDocument? document = some schema → schema.Each Fine
  rule : ∀ (schema : Schema) name result, schema.Each Fine →
    schema.set? name document = some result → result.Each Fine

theorem empty_each (kept : Node.Kept Sound Fine) : ({} : Schema).Each Fine := .ofNode kept.empty

theorem setRule_keeps (kept : Node.Kept Sound Fine) {document : Document} (sound : Sound document)
    {name : String} (each : schema.Each Fine)
    (set : schema.setRule? name document = some result) : result.Each Fine := by
  obtain ⟨node, changed, rfl⟩ := Option.map_eq_some_iff.mp set
  exact withNode_each each ((Node.keeps kept sound).rule schema.node name node each.node changed)

theorem ofEntries?_keeps {entries : List (Document × Document)}
    (parts : ∀ entry ∈ entries, Keeps Fine entry.2) (seen : List String) (each : schema.Each Fine)
    (decoded : ofEntries? seen schema entries = some result) : result.Each Fine := by
  induction entries generalizing seen schema with
  | nil =>
    rw [ofEntries?] at decoded
    exact Option.some.inj decoded ▸ each
  | cons entry rest ih =>
    obtain ⟨key, content⟩ := entry
    have others : ∀ entry ∈ rest, Keeps Fine entry.2 := fun entry later =>
      parts entry (List.mem_cons_of_mem _ later)
    cases key with
    | text name =>
      rw [ofEntries?] at decoded
      split at decoded
      · exact ih others seen each decoded
      split at decoded
      · cases decoded
      obtain ⟨next, set, decoded⟩ := Option.bind_eq_some_iff.mp decoded
      have keeps : Keeps Fine content := parts (.text name, content) List.mem_cons_self
      exact ih others (name :: seen) (keeps.rule schema name next each set) decoded
    | _ =>
      simp only [ofEntries?] at decoded
      exact ih others seen each decoded

theorem schemasOfItems?_keeps {items : List Document} (parts : ∀ item ∈ items, Keeps Fine item)
    {schemas : List Schema} (decoded : schemasOfItems? items = some schemas) :
    ∀ schema ∈ schemas, schema.Each Fine := by
  induction items generalizing schemas with
  | nil =>
    rw [schemasOfItems?] at decoded
    obtain rfl := Option.some.inj decoded
    exact fun _ member => (nomatch member)
  | cons item rest ih =>
    rw [schemasOfItems?] at decoded
    obtain ⟨first, here, decoded⟩ := Option.bind_eq_some_iff.mp decoded
    obtain ⟨others, later, decoded⟩ := Option.bind_eq_some_iff.mp decoded
    obtain rfl := Option.some.inj decoded
    intro schema member
    cases member with
    | head => exact (parts item List.mem_cons_self).schema first here
    | tail _ member =>
      exact ih (fun item later => parts item (List.mem_cons_of_mem _ later)) later schema member

theorem keeps_scalar (kept : Node.Kept Sound Fine) {document : Document} (sound : Sound document)
    (notSchema : ofDocument? document = none)
    (rule : ∀ (schema : Schema) name, schema.set? name document =
      if singleKeywords.contains name then
        if document.isNull then some (schema.withSingle name none) else none
      else if listKeywords.contains name then none
      else schema.setRule? name document) : Keeps Fine document := by
  refine ⟨fun schema decoded => (nomatch notSchema.symm.trans decoded), ?_⟩
  intro schema name result each set
  rw [rule] at set
  split at set
  · split at set
    · exact Option.some.inj set ▸ withSingle_each each name fun _ member => (nomatch member)
    · cases set
  · split at set
    · cases set
    · exact setRule_keeps kept sound each set

theorem keeps (kept : Node.Kept Sound Fine) {document : Document} (sound : Sound document) :
    Keeps Fine document := by
  induction document using Document.induction with
  | sequence items parts =>
    have ofItems : ∀ item ∈ items, Keeps Fine item := fun item member =>
      parts item member (kept.ofItem sound member)
    refine ⟨fun schema decoded => ?_, fun schema name result each set => ?_⟩
    · simp only [ofDocument?, reduceCtorEq] at decoded
    rw [set?] at set
    split at set
    · cases set
    · split at set
      · obtain ⟨inner, decoded, rfl⟩ := Option.map_eq_some_iff.mp set
        exact withList_each each name (schemasOfItems?_keeps ofItems decoded)
      · exact setRule_keeps kept sound each set
  | mapping entries parts =>
    have ofEntries : ∀ entry ∈ entries, Keeps Fine entry.2 := fun entry member =>
      parts entry member (kept.ofEntry sound member)
    refine ⟨fun schema decoded => ?_, fun schema name result each set => ?_⟩
    · rw [ofDocument?] at decoded
      exact ofEntries?_keeps ofEntries [] (empty_each kept) decoded
    rw [set?] at set
    split at set
    · obtain ⟨inner, decoded, rfl⟩ := Option.map_eq_some_iff.mp set
      have made := ofEntries?_keeps ofEntries [] (empty_each kept) decoded
      exact withSingle_each each name fun part member => Option.some.inj member ▸ made
    · split at set
      · cases set
      · exact setRule_keeps kept sound each set
  | blank =>
    refine ⟨fun schema decoded => ?_, fun schema name result each set => ?_⟩
    · rw [ofDocument?] at decoded
      exact Option.some.inj decoded ▸ empty_each kept
    rw [set?] at set
    split at set
    · exact Option.some.inj set ▸ withSingle_each each name fun _ member => (nomatch member)
    · split at set
      · exact Option.some.inj set ▸ withList_each each name fun _ member => (nomatch member)
      · exact setRule_keeps kept sound each set
  | _ => exact keeps_scalar kept sound rfl fun _ _ => rfl

theorem ofDocument?_each (kept : Node.Kept Sound Fine) {document : Document}
    (sound : Sound document) (decoded : ofDocument? document = some schema) : schema.Each Fine :=
  (keeps kept sound).schema schema decoded

end Schema

section Order

theorem Node.sorted_kept : Kept (fun _ => True) Sorted where
  ofItem _ _ := trivial
  ofEntry _ _ := trivial
  empty := sorted_alone {}
  rule sorted _ _ := by
    obtain ⟨own, ofItems, ofProperties⟩ := sorted
    exact ⟨own, ofItems, ofProperties⟩
  items sorted ofItems := by
    obtain ⟨own, _, ofProperties⟩ := sorted
    exact ⟨own, ofItems, ofProperties⟩
  properties {node properties} sorted parts := by
    obtain ⟨_, ofItems, _⟩ := sorted
    exact ⟨Fields.sorted_ofList properties, ofItems,
      fun entry member => parts entry (Fields.mem_ofList member)⟩

theorem Schema.ofDocument?_sorted {document : Document} {schema : Schema}
    (decoded : ofDocument? document = some schema) : schema.Each Node.Sorted :=
  ofDocument?_each Node.sorted_kept trivial decoded

end Order

section Bounds

/-- All numbers of the document, taken as binary64 numbers, are finite. -/
inductive Document.Finite : Document → Prop where
  | null : Finite .null
  | blank : Finite .blank
  | bool (b : Bool) : Finite (.bool b)
  | integer {n : Int} (finite : ∃ x, Binary64.ofInt n = .finite x) : Finite (.integer n)
  | real (x : Binary64.Finite) : Finite (.real (.finite x))
  | text (s : String) : Finite (.text s)
  | sequence {items : List Document} (ofItems : ∀ item ∈ items, Finite item) :
    Finite (.sequence items)
  | mapping {entries : List (Document × Document)} (ofEntries : ∀ entry ∈ entries, Finite entry.2) :
    Finite (.mapping entries)

theorem Document.Finite.bound {document : Document} (finite : document.Finite)
    {bound : Option Binary64} (read : document.optional? Document.binary64? = some bound) :
    ∀ x ∈ bound, ∃ y, x = .finite y := by
  unfold Document.optional? at read
  split at read
  · obtain rfl := Option.some.inj read
    exact fun _ member => (nomatch member)
  obtain ⟨x, made, rfl⟩ := Option.map_eq_some_iff.mp read
  intro other member
  obtain rfl := Option.some.inj member
  cases finite with
  | integer finite => exact Option.some.inj made ▸ finite
  | real y => exact ⟨y, (Option.some.inj made).symm⟩
  | _ => cases made

theorem Rules.set?_bounded {rules result : Rules} (bounded : rules.Bounded) {name : String}
    {document : Document} (finite : document.Finite)
    (set : rules.set? name document = some result) : result.Bounded := by
  obtain ⟨low, high⟩ := bounded
  unfold Rules.set? at set
  split at set
  all_goals first
    | (obtain ⟨bound, read, rfl⟩ := Option.map_eq_some_iff.mp set
       first
        | exact ⟨low, high⟩
        | exact ⟨finite.bound read, high⟩
        | exact ⟨low, finite.bound read⟩)
    | exact Option.some.inj set ▸ ⟨low, high⟩

theorem Node.bounded_kept : Kept Document.Finite Bounded where
  ofItem finite member := by
    cases finite with
    | sequence ofItems => exact ofItems _ member
  ofEntry finite member := by
    cases finite with
    | mapping ofEntries => exact ofEntries _ member
  empty := bounded_alone ⟨fun _ member => (nomatch member), fun _ member => (nomatch member)⟩
  rule bounded finite set := by
    obtain ⟨own, ofItems, ofProperties⟩ := bounded
    exact ⟨Rules.set?_bounded own finite set, ofItems, ofProperties⟩
  items bounded ofItems := by
    obtain ⟨own, _, ofProperties⟩ := bounded
    exact ⟨own, ofItems, ofProperties⟩
  properties bounded parts := by
    obtain ⟨own, ofItems, _⟩ := bounded
    exact ⟨own, ofItems, fun entry member => parts entry (Fields.mem_ofList member)⟩

theorem Document.ofValue_finite (value : Value) : (ofValue value).Finite := by
  induction value using Value.induction with
  | null => exact .null
  | bool b => exact .bool b
  | number n =>
    cases n with
    | integer n low high =>
      have range : signedBound = 2 ^ 63 ∧ wordBound = 2 ^ 64 ∧ twoTo 64 = 2 ^ 64 := by decide
      obtain ⟨signed, word, power⟩ := range
      have small : n.natAbs ≤ twoTo 64 := by omega
      exact .integer (Binary64.ofInt_finite small)
    | real x => exact .real x
  | string text => exact .text text
  | array items parts =>
    rw [ofValue, ofItems_eq]
    refine .sequence fun document member => ?_
    obtain ⟨item, here, rfl⟩ := List.mem_map.mp member
    exact parts item here
  | object fields parts =>
    rw [ofValue, ofFields_eq]
    refine .mapping fun entry member => ?_
    obtain ⟨field, here, rfl⟩ := List.mem_map.mp member
    exact parts field here

theorem Schema.ofValue?_bounded {value : Value} {schema : Schema}
    (decoded : ofValue? value = some schema) : schema.Each Node.Bounded :=
  ofDocument?_each Node.bounded_kept (Document.ofValue_finite value) decoded

end Bounds

end SchemaCheck
