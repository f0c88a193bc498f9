import SchemaCheck.Proofs.Coercion.Document
import SchemaCheck.Proofs.Coercion.Scalar

/-!
Coercing a document that is coerced already changes nothing (`Node.coerce_coerce`). A settled scalar
either has its kind or stays out of reach, and the fields of a coerced object hold what their nodes
have made, so that each of them is put back as it is.
-/

namespace SchemaCheck

open Json (Value)

section Fields

variable {properties : List (String × Node)} {fields : List (String × Value)} {name : String}

theorem Fields.Placed.coerceFields (placed : Fields.Placed name fields)
    (properties : List (String × Node)) :
    Fields.Placed name (SchemaCheck.coerceFields properties fields) := by
  induction properties generalizing fields with
  | nil => rwa [SchemaCheck.coerceFields]
  | cons entry rest ih =>
    obtain ⟨other, node⟩ := entry
    rw [SchemaCheck.coerceFields]
    apply ih
    split
    · exact placed.insert other _
    · exact placed

theorem placed_coerceFields {node : Node} (declared : (name, node) ∈ properties)
    (present : Fields.has fields name = true) :
    Fields.Placed name (coerceFields properties fields) := by
  induction properties generalizing fields with
  | nil => cases declared
  | cons entry rest ih =>
    obtain ⟨other, first⟩ := entry
    rw [coerceFields]
    cases declared with
    | head =>
      obtain ⟨value, found⟩ := Option.isSome_iff_exists.mp present
      have here : Fields.get? fields name = some value := found
      simp only [here]
      exact (Fields.placed_insert_self name _ fields).coerceFields rest
    | tail _ later =>
      apply ih later
      split
      · rw [Fields.has_insert, present, Bool.or_true]
      · exact present

theorem coerceFields_settled (settled : ∀ entry ∈ properties, ∀ value,
      Fields.get? fields entry.1 = some value →
        Fields.Placed entry.1 fields ∧ entry.2.coerce value = value) :
    coerceFields properties fields = fields := by
  induction properties with
  | nil => rw [coerceFields]
  | cons entry rest ih =>
    obtain ⟨name, node⟩ := entry
    have others := ih fun entry later => settled entry (List.mem_cons_of_mem _ later)
    rw [coerceFields]
    cases found : Fields.get? fields name with
    | none => exact others
    | some value =>
      obtain ⟨placed, same⟩ := settled _ List.mem_cons_self value found
      simp only [same, Fields.insert_found placed found]
      exact others

theorem coerceFields_coerceFields (sorted : Fields.Sorted properties)
    (alike : ∀ entry ∈ properties, ∀ value,
      entry.2.coerce (entry.2.coerce value) = entry.2.coerce value)
    (fields : List (String × Value)) :
    coerceFields properties (coerceFields properties fields) = coerceFields properties fields := by
  apply coerceFields_settled
  -- What is found under a declared name has been made by its node.
  intro entry declared value found
  obtain ⟨name, node⟩ := entry
  rw [get?_coerceFields_declared properties fields sorted declared] at found
  obtain ⟨before, present, rfl⟩ := Option.map_eq_some_iff.mp found
  have has : Fields.has fields name = true := Option.isSome_iff_exists.mpr ⟨before, present⟩
  exact ⟨placed_coerceFields declared has, alike _ declared before⟩

end Fields

theorem coerceItems_settled {items : Option Node} {values : List Value}
    (settled : ∀ node ∈ items, ∀ value ∈ values, node.coerce value = value) :
    coerceItems items values = values := by
  cases items with
  | none => rfl
  | some node =>
    rw [coerceItems]
    exact (List.map_congr_left (settled node rfl)).trans (List.map_id values)

theorem coerceItems_coerceItems {items : Option Node}
    (alike : ∀ node ∈ items, ∀ value, node.coerce (node.coerce value) = node.coerce value)
    (values : List Value) :
    coerceItems items (coerceItems items values) = coerceItems items values := by
  apply coerceItems_settled
  intro node shape value made
  obtain rfl := Option.mem_def.mp shape
  obtain ⟨before, _, rfl⟩ := List.mem_map.mp made
  exact alike node rfl before

/-- A value of another kind is settled once and for all. -/
theorem Node.coerce_settled {rules : Rules} {items : Option Node}
    {properties : List (String × Node)} {kind : Kind} (expected : rules.kind = some kind)
    {value : Value} (refuses : kind.admits value = false) :
    coerce ⟨rules, items, properties⟩ (kind.settle value) = kind.settle value := by
  rcases kind.settle_cases value with ⟨scalar, admits⟩ | same
  · exact coerce_scalar expected scalar admits
  · rw [same, coerce_refused expected refuses, same]

/-- Coercing a coerced document changes nothing. -/
theorem Node.coerce_coerce (node : Node) (sorted : node.Sorted) (value : Value) :
    node.coerce (node.coerce value) = node.coerce value := by
  induction node using Node.induction generalizing value with
  | step rules items properties ofItems ofProperties =>
    obtain ⟨own, sortedItems, sortedProperties⟩ := sorted
    cases expected : rules.kind with
    | none => rw [coerce_untyped expected, coerce_untyped expected]
    | some kind =>
      cases admits : kind.admits value with
      | false => rw [coerce_refused expected admits, coerce_settled expected admits]
      | true =>
        cases scalar : kind.isScalar with
        | true => rw [coerce_scalar expected scalar admits, coerce_scalar expected scalar admits]
        | false =>
          rcases Kind.container_cases scalar with rfl | rfl
          · cases value with
            | object fields =>
              rw [coerce_object expected, coerce_object expected, coerceFields_coerceFields own
                fun entry member => ofProperties entry member (sortedProperties entry member)]
            | _ => cases admits
          · cases value with
            | array values =>
              rw [coerce_array expected, coerce_array expected, coerceItems_coerceItems
                fun node member => ofItems node member (sortedItems node member)]
            | _ => cases admits

/-- An order whose amounts are texts, one of them no number. -/
theorem Node.coerce_coerce_order :
    let order := (ofKind .object).withProperty "amounts" (array (ofKind .number))
    let value := Value.object [("amounts", .array [.string "2.5", .string "few", .bool true])]
    order.Sorted ∧ order.coerce (order.coerce value) = order.coerce value := by
  intro order value
  have sorted : order.Sorted :=
    withProperty_sorted (ofKind_sorted .object) "amounts"
      (withItems_sorted (ofKind_sorted .array) (ofKind_sorted .number))
  exact ⟨sorted, coerce_coerce order sorted value⟩

end SchemaCheck
