import SchemaCheck.Json.Value
import SchemaCheck.Proofs.Fields
import SchemaCheck.Validation.Input

/-!
Induction over values, the order in which a value holds its fields, how deep a value nests, and the
real numbers in it. What is read from a text is in order (`sorted_of_parse`), and a document that
holds a value is encoded as the value (`encode?_ofValue`) and stands for it in order
(`toValue?_ofValue`).
-/

namespace SchemaCheck.Json.Value

/-- What holds of a value as soon as it holds of its parts holds of every value. -/
theorem induction {motive : Value → Prop} (null : motive .null) (bool : ∀ b, motive (.bool b))
    (number : ∀ n, motive (.number n)) (string : ∀ text, motive (.string text))
    (array : ∀ items, (∀ item ∈ items, motive item) → motive (.array items))
    (object : ∀ fields, (∀ field ∈ fields, motive field.2) → motive (.object fields))
    (value : Value) : motive value := by
  refine @Value.rec motive (fun items => ∀ item ∈ items, motive item)
    (fun fields => ∀ field ∈ fields, motive field.2) (fun field => motive field.2)
    null bool number string array object ?_ ?_ ?_ ?_ ?_ value
  · intro item member
    cases member
  · intro first rest holds others item member
    cases member with
    | head => exact holds
    | tail _ later => exact others item later
  · intro field member
    cases member
  · intro first rest holds others field member
    cases member with
    | head => exact holds
    | tail _ later => exact others field later
  · intro name value holds
    exact holds

section Order

/-- In the value and in all its parts the fields of an object ascend by name, each held once. -/
inductive Sorted : Value → Prop where
  | null : Sorted .null
  | bool (b : Bool) : Sorted (.bool b)
  | number (n : Number) : Sorted (.number n)
  | string (text : String) : Sorted (.string text)
  | array {items : List Value} (parts : ∀ item ∈ items, Sorted item) : Sorted (.array items)
  | object {fields : List (String × Value)} (own : Fields.Sorted fields)
    (parts : ∀ field ∈ fields, Sorted field.2) : Sorted (.object fields)

theorem sortedItems_eq {items : List Value} (same : ∀ item ∈ items, item.sorted = item) :
    sortedItems items = items := by
  induction items with
  | nil => rfl
  | cons first rest ih =>
    rw [sortedItems, same first List.mem_cons_self,
      ih fun item later => same item (List.mem_cons_of_mem _ later)]

theorem sortedFields_eq {fields : List (String × Value)}
    (same : ∀ field ∈ fields, field.2.sorted = field.2) : sortedFields fields = fields := by
  induction fields with
  | nil => rfl
  | cons first rest ih =>
    obtain ⟨name, value⟩ := first
    rw [sortedFields, same _ List.mem_cons_self,
      ih fun field later => same field (List.mem_cons_of_mem _ later)]

theorem Sorted.sorted_eq {value : Value} (sorted : value.Sorted) : value.sorted = value := by
  induction sorted with
  | array _ ih => rw [Value.sorted, sortedItems_eq ih]
  | object own _ ih => rw [Value.sorted, sortedFields_eq ih, Fields.ofList_sorted own]
  | _ => rfl

theorem mem_sortedItems {items : List Value} {item : Value} (member : item ∈ sortedItems items) :
    ∃ source ∈ items, item = source.sorted := by
  induction items with
  | nil => cases member
  | cons first rest ih =>
    rw [sortedItems] at member
    cases member with
    | head => exact ⟨first, List.mem_cons_self, rfl⟩
    | tail _ later =>
      obtain ⟨source, inside, same⟩ := ih later
      exact ⟨source, List.mem_cons_of_mem _ inside, same⟩

theorem mem_sortedFields {fields : List (String × Value)} {field : String × Value}
    (member : field ∈ sortedFields fields) : ∃ source ∈ fields, field.2 = source.2.sorted := by
  induction fields with
  | nil => cases member
  | cons first rest ih =>
    rw [sortedFields] at member
    cases member with
    | head => exact ⟨first, List.mem_cons_self, rfl⟩
    | tail _ later =>
      obtain ⟨source, inside, same⟩ := ih later
      exact ⟨source, List.mem_cons_of_mem _ inside, same⟩

/-- Putting a value in order puts all its parts in order. -/
theorem sorted_sorted (value : Value) : value.sorted.Sorted := by
  induction value using Value.induction with
  | null => exact .null
  | bool b => exact .bool b
  | number n => exact .number n
  | string text => exact .string text
  | array items parts =>
    rw [sorted]
    refine .array fun item member => ?_
    obtain ⟨source, inside, rfl⟩ := mem_sortedItems member
    exact parts source inside
  | object fields parts =>
    rw [sorted]
    refine .object (Fields.sorted_ofList _) fun field member => ?_
    obtain ⟨source, inside, same⟩ := mem_sortedFields (Fields.mem_ofList member)
    rw [same]
    exact parts source inside

theorem sorted_of_parse {text : String} {value : Value} (read : parse text = .ok value) :
    value.Sorted := by
  unfold parse at read
  split at read
  next source _ =>
    cases read
    exact sorted_sorted source
  next => cases read

end Order

section Measures

mutual

def nesting : Value → Nat
  | .array items => nestingOfItems items + 1
  | .object fields => nestingOfFields fields + 1
  | _ => 0

def nestingOfItems : List Value → Nat
  | [] => 0
  | item :: rest => max item.nesting (nestingOfItems rest)

def nestingOfFields : List (String × Value) → Nat
  | [] => 0
  | (_, value) :: rest => max value.nesting (nestingOfFields rest)

end

mutual

def reals : Value → List Binary64.Finite
  | .number (.real x) => [x]
  | .array items => realsOfItems items
  | .object fields => realsOfFields fields
  | _ => []

def realsOfItems : List Value → List Binary64.Finite
  | [] => []
  | item :: rest => item.reals ++ realsOfItems rest

def realsOfFields : List (String × Value) → List Binary64.Finite
  | [] => []
  | (_, value) :: rest => value.reals ++ realsOfFields rest

end

variable {x : Binary64.Finite}

theorem mem_reals_item {items : List Value} {item : Value} (member : item ∈ items)
    (inside : x ∈ item.reals) : x ∈ (array items).reals := by
  rw [reals]
  induction items with
  | nil => cases member
  | cons first rest ih =>
    rw [realsOfItems, List.mem_append]
    cases member with
    | head => exact .inl inside
    | tail _ later => exact .inr (ih later)

theorem mem_reals_field {fields : List (String × Value)} {field : String × Value}
    (member : field ∈ fields) (inside : x ∈ field.2.reals) : x ∈ (object fields).reals := by
  rw [reals]
  induction fields with
  | nil => cases member
  | cons first rest ih =>
    rw [realsOfFields, List.mem_append]
    cases member with
    | head => exact .inl inside
    | tail _ later => exact .inr (ih later)

end Measures

section Encoding

theorem encodeItems?_ofItems {items : List Value}
    (parts : ∀ item ∈ items, (Document.ofValue item).encode? = some item) :
    encodeItems? (Document.ofItems items) = some items := by
  induction items with
  | nil => rfl
  | cons first rest ih =>
    rw [Document.ofItems, encodeItems?, parts first List.mem_cons_self,
      ih fun item later => parts item (List.mem_cons_of_mem _ later)]
    rfl

theorem encodeEntries?_ofFields {fields : List (String × Value)}
    (parts : ∀ field ∈ fields, (Document.ofValue field.2).encode? = some field.2) :
    encodeEntries? (Document.ofFields fields) = some fields := by
  induction fields with
  | nil => rfl
  | cons first rest ih =>
    obtain ⟨name, value⟩ := first
    rw [Document.ofFields, encodeEntries?, parts _ List.mem_cons_self,
      ih fun field later => parts field (List.mem_cons_of_mem _ later)]
    rfl

theorem ofInt?_integer (n : Int) (low : -(signedBound : Int) ≤ n) (high : n < (wordBound : Int)) :
    Number.ofInt? n = some (.integer n low high) := dif_pos ⟨low, high⟩

theorem ofInt_integer (n : Int) (low : -(signedBound : Int) ≤ n) (high : n < (wordBound : Int)) :
    ofInt n = .number (.integer n low high) := by
  rw [ofInt, ofInt?_integer n low high]

theorem encode?_ofValue (value : Value) : (Document.ofValue value).encode? = some value := by
  induction value using Value.induction with
  | null => rfl
  | bool b => rfl
  | number n =>
    cases n with
    | integer n low high =>
      rw [Document.ofValue, Document.encode?, ofInt_integer n low high]
    | real x => rfl
  | string text => rfl
  | array items parts =>
    rw [Document.ofValue, Document.encode?, encodeItems?_ofItems parts]
    rfl
  | object fields parts =>
    rw [Document.ofValue, Document.encode?, encodeEntries?_ofFields parts]
    rfl

end Encoding

end SchemaCheck.Json.Value

namespace SchemaCheck.Document

open Json (Value)

theorem ofItems_eq (items : List Value) : ofItems items = items.map ofValue := by
  induction items with
  | nil => rw [ofItems, List.map_nil]
  | cons item rest ih => rw [ofItems, ih, List.map_cons]

theorem ofFields_eq (fields : List (String × Value)) :
    ofFields fields = fields.map fun field => (.text field.1, ofValue field.2) := by
  induction fields with
  | nil => rw [ofFields, List.map_nil]
  | cons field rest ih => rw [ofFields, ih, List.map_cons]

theorem toItems?_ofItems {items : List Value}
    (parts : ∀ item ∈ items, (ofValue item).toValue? = some item.sorted) :
    toItems? (ofItems items) = some (Value.sortedItems items) := by
  induction items with
  | nil => rfl
  | cons first rest ih =>
    rw [ofItems, toItems?, parts first List.mem_cons_self,
      ih fun item later => parts item (List.mem_cons_of_mem _ later)]
    rfl

theorem toFields?_ofFields {fields : List (String × Value)}
    (parts : ∀ field ∈ fields, (ofValue field.2).toValue? = some field.2.sorted) :
    toFields? (ofFields fields) = some (Value.sortedFields fields) := by
  induction fields with
  | nil => rfl
  | cons first rest ih =>
    obtain ⟨name, value⟩ := first
    rw [ofFields, toFields?, parts _ List.mem_cons_self,
      ih fun field later => parts field (List.mem_cons_of_mem _ later)]
    rfl

theorem toValue?_ofValue (value : Value) : (ofValue value).toValue? = some value.sorted := by
  induction value using Value.induction with
  | null => rfl
  | bool b => rfl
  | number n =>
    cases n with
    | integer n low high =>
      rw [ofValue, toValue?, Value.ofInt?_integer n low high]
      rfl
    | real x => rfl
  | string text => rfl
  | array items parts =>
    rw [ofValue, toValue?, toItems?_ofItems parts, Value.sorted]
    rfl
  | object fields parts =>
    rw [ofValue, toValue?, toFields?_ofFields parts, Value.sorted]
    rfl

end SchemaCheck.Document
