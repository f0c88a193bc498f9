import SchemaCheck.Proofs.Coercion.Document
import SchemaCheck.Proofs.Coercion.Idempotence
import SchemaCheck.Proofs.Validation.Visit

/-!
Coercion of a document, place by place. A node speaks about the places that are reached from the
root through declared fields of objects and through elements of arrays, each of the kind of its node
(`Governs`). Coercion keeps all places of a document. At a place it puts another value only in the
stead of a scalar that its node refuses and that can be made into what the node expects; an object
keeps its names and an array its length, and what no node speaks about stays as it is
(`Node.coerce_changes`). A document without such a scalar stays as it is (`Node.Unmended.coerce`).
-/

namespace SchemaCheck

open Json (Value)

section Places

def Json.Value.part? : Value → Step → Option Value
  | .object fields, .field name => Fields.get? fields name
  | .array items, .element index => items[index]?
  | _, _ => none

def Json.Value.at? (value : Value) : List Step → Option Value
  | [] => some value
  | step :: rest =>
    match value.part? step with
    | some part => part.at? rest
    | none => none

/-- Objects with the same names, arrays of the same length, or the same scalar. -/
def Json.Value.SameFrame : Value → Value → Prop
  | .object fields, .object others => ∀ name, Fields.has others name = Fields.has fields name
  | .array items, .array others => others.length = items.length
  | value, other => other = value

theorem Json.Value.SameFrame.refl (value : Value) : value.SameFrame value := by
  cases value with
  | object fields => exact fun _ => rfl
  | _ => exact rfl

namespace Node

/-- One step into a container of the kind of its node, to a declared field or to an element, with
the node and the value that are met there. -/
inductive Leads : Node → Value → Step → Node → Value → Prop where
  | field {node part : Node} {fields : List (String × Value)} {name : String} {value : Value}
    (expected : node.rules.kind = some .object) (declared : (name, part) ∈ node.properties)
    (present : Fields.get? fields name = some value) :
    Leads node (.object fields) (.field name) part value
  | element {node part : Node} {values : List Value} {index : Nat} {value : Value}
    (expected : node.rules.kind = some .array) (shape : node.items = some part)
    (inside : values[index]? = some value) :
    Leads node (.array values) (.element index) part value

/-- The node that speaks about the place at the end of a route, and the value there. -/
inductive Governs : Node → Value → List Step → Node → Value → Prop where
  | here (node : Node) (value : Value) : Governs node value [] node value
  | onward {node next part : Node} {value inner content : Value} {step : Step} {rest : List Step}
    (first : Leads node value step next inner) (behind : Governs next inner rest part content) :
    Governs node value (step :: rest) part content

/-- The node expects a scalar kind that the value does not have, and the value can be made into one
of that kind. -/
structure Mends (node : Node) (kind : Kind) (value made : Value) : Prop where
  expected : node.rules.kind = some kind
  scalar : kind.isScalar = true
  refuses : kind.admits value = false
  coerced : kind.coerce? value = some made

/-- The value is an object or an array, as the node expects. -/
structure Enters (node : Node) (kind : Kind) (value : Value) : Prop where
  expected : node.rules.kind = some kind
  container : kind.isScalar = false
  admits : kind.admits value = true

/-- The node leaves the value to itself: it expects nothing, or another kind that the value cannot
be made into, as nothing is made into an object or an array. -/
def Passes (node : Node) (value : Value) : Prop :=
  ∀ kind, node.rules.kind = some kind →
    kind.admits value = false ∧ (kind.isScalar = true → kind.coerce? value = none)

end Node

end Places

section Scalars

variable {kind : Kind} {value : Value}

theorem Kind.part?_admitted (scalar : kind.isScalar = true) (admits : kind.admits value = true)
    (step : Step) : value.part? step = none := by
  cases value with
  | object fields => cases kind <;> simp_all [Kind.admits, Kind.isScalar]
  | array values => cases kind <;> simp_all [Kind.admits, Kind.isScalar]
  | _ => rfl

theorem Kind.part?_settle (kind : Kind) (value : Value) (step : Step) :
    (kind.settle value).part? step = value.part? step := by
  rcases kind.settle_cases value with ⟨scalar, admits⟩ | same
  · cases value with
    | object fields => rw [settle_of_none fun _ => coerce?_object scalar fields]
    | array values => rw [settle_of_none fun _ => coerce?_array scalar values]
    | _ => exact part?_admitted scalar admits step
  · rw [same]

end Scalars

section Parts

/-- A field stays, or stays absent, unless it is both declared and there. -/
theorem get?_coerceFields_kept {properties : List (String × Node)} {fields : List (String × Value)}
    {name : String} (apart : ∀ part, (name, part) ∈ properties → ∀ inner,
      Fields.get? fields name ≠ some inner) :
    Fields.get? (coerceFields properties fields) name = Fields.get? fields name := by
  cases present : Fields.get? fields name with
  | none =>
    have absent := has_coerceFields properties fields name
    rw [Fields.has, Fields.has, present] at absent
    exact Option.not_isSome_iff_eq_none.mp (Bool.eq_false_iff.mp absent)
  | some inner =>
    have undeclared : name ∉ properties.map Prod.fst := by
      intro declared
      obtain ⟨⟨_, part⟩, member, rfl⟩ := List.mem_map.mp declared
      exact apart part member inner present
    rw [get?_coerceFields_undeclared properties fields undeclared, present]

theorem getElem?_coerceItems_kept {items : Option Node} {values : List Value} {index : Nat}
    (apart : ∀ part, items = some part → ∀ inner, values[index]? ≠ some inner) :
    (coerceItems items values)[index]? = values[index]? := by
  cases items with
  | none => rw [coerceItems]
  | some part =>
    have outside : values[index]? = none := Option.eq_none_iff_forall_ne_some.mpr (apart part rfl)
    rw [coerceItems, List.getElem?_map, outside, Option.map_none]

end Parts

namespace Node

section OneStep

variable {node part : Node} {value inner : Value} {step : Step}

theorem Leads.part? (leads : Leads node value step part inner) : value.part? step = some inner := by
  cases leads with
  | field _ _ present => exact present
  | element _ _ inside => exact inside

theorem Leads.part?_coerce (leads : Leads node value step part inner) (sorted : node.Sorted) :
    (node.coerce value).part? step = some (part.coerce inner) := by
  have own := sorted.parts.1
  cases node with
  | mk rules items properties =>
    cases leads with
    | field expected declared present =>
      rw [coerce_object expected, Value.part?, get?_coerceFields_declared _ _ own declared, present,
        Option.map_some]
    | element expected shape inside =>
      obtain rfl : items = some part := shape
      rw [coerce_array expected, Value.part?, coerceItems, List.getElem?_map, inside,
        Option.map_some]

theorem Leads.sorted (leads : Leads node value step part inner) (sorted : node.Sorted) :
    part.Sorted := by
  cases leads with
  | field _ declared _ => exact sorted.parts.2.2 _ declared
  | element _ shape _ => exact sorted.parts.2.1 _ shape

theorem part?_coerce_kept (nowhere : ∀ part inner, ¬Leads node value step part inner) :
    (node.coerce value).part? step = value.part? step := by
  cases node with
  | mk rules items properties =>
    cases expected : rules.kind with
    | none => rw [coerce_untyped expected]
    | some kind =>
      cases admits : kind.admits value with
      | false => rw [coerce_refused expected admits, kind.part?_settle]
      | true =>
        cases scalar : kind.isScalar with
        | true => rw [coerce_scalar expected scalar admits]
        | false =>
          rcases Kind.container_cases scalar with rfl | rfl
          · cases value with
            | object fields =>
              rw [coerce_object expected]
              cases step with
              | element index => rfl
              | field name =>
                exact get?_coerceFields_kept fun part declared inner present =>
                  nowhere part inner (.field expected declared present)
            | _ => cases admits
          · cases value with
            | array values =>
              rw [coerce_array expected]
              cases step with
              | field name => rfl
              | element index =>
                exact getElem?_coerceItems_kept fun part shape inner inside =>
                  nowhere part inner (.element expected shape inside)
            | _ => cases admits

end OneStep

section Routes

variable {node part : Node} {value content : Value} {route : List Step}

theorem Governs.at? (governs : Governs node value route part content) :
    value.at? route = some content := by
  induction governs with
  | here => rfl
  | onward first _ ih =>
    rw [Value.at?, first.part?]
    exact ih

/-- A place is coerced by the node that speaks about it. -/
theorem Governs.at?_coerce (governs : Governs node value route part content)
    (sorted : node.Sorted) : (node.coerce value).at? route = some (part.coerce content) := by
  induction governs with
  | here => rfl
  | onward first _ ih =>
    rw [Value.at?, first.part?_coerce sorted]
    exact ih (first.sorted sorted)

/-- A place that no node speaks about stays as it is, or stays absent. -/
theorem at?_coerce_kept (sorted : node.Sorted)
    (alone : ∀ part content, ¬Governs node value route part content) :
    (node.coerce value).at? route = value.at? route := by
  induction route generalizing node value with
  | nil => exact absurd (.here node value) (alone node value)
  | cons step rest ih =>
    by_cases leads : ∃ next inner, Leads node value step next inner
    · obtain ⟨next, inner, first⟩ := leads
      have behind := ih (first.sorted sorted) fun part content governs =>
        alone part content (.onward first governs)
      simp only [Value.at?, first.part?, first.part?_coerce sorted]
      exact behind
    · have same := part?_coerce_kept fun next inner first => leads ⟨next, inner, first⟩
      rw [Value.at?, Value.at?, same]

end Routes

section Content

variable {part : Node} {value : Value}

theorem Mends.coerce {kind : Kind} {made : Value} (mends : part.Mends kind value made) :
    part.coerce value = made := by
  obtain ⟨expected, scalar, refuses, coerced⟩ := mends
  cases part
  rw [coerce_refused expected refuses, Kind.settle_of_some scalar coerced]

theorem Passes.coerce (passes : part.Passes value) : part.coerce value = value := by
  cases part with
  | mk rules items properties =>
    cases expected : rules.kind with
    | none => exact coerce_untyped expected value
    | some kind =>
      obtain ⟨refuses, hopeless⟩ := passes kind expected
      rw [coerce_refused expected refuses, Kind.settle_of_none hopeless]

theorem Enters.coerce {kind : Kind} (enters : part.Enters kind value) :
    value.SameFrame (part.coerce value) := by
  obtain ⟨expected, container, admits⟩ := enters
  cases part with
  | mk rules items properties =>
    rcases Kind.container_cases container with rfl | rfl
    · cases value with
      | object fields =>
        rw [coerce_object expected]
        exact has_coerceFields properties fields
      | _ => cases admits
    · cases value with
      | array values =>
        rw [coerce_array expected]
        cases items with
        | none => exact rfl
        | some inner => exact List.length_map _
      | _ => cases admits

theorem passes_untyped (untyped : part.rules.kind = none) (value : Value) : part.Passes value :=
  fun _ expected => by simp [untyped] at expected

theorem passes_refused {kind : Kind} (expected : part.rules.kind = some kind)
    (refuses : kind.admits value = false)
    (hopeless : kind.isScalar = true → kind.coerce? value = none) : part.Passes value := by
  intro other same
  obtain rfl := Option.some.inj (expected.symm.trans same)
  exact ⟨refuses, hopeless⟩

theorem coerce_cases (part : Node) (value : Value) :
    (∃ kind made, part.Mends kind value made) ∨ (∃ kind, part.Enters kind value) ∨
      part.coerce value = value := by
  cases expected : part.rules.kind with
  | none => exact .inr (.inr (passes_untyped expected value).coerce)
  | some kind =>
    cases scalar : kind.isScalar with
    | false =>
      cases admits : kind.admits value with
      | true => exact .inr (.inl ⟨kind, expected, scalar, admits⟩)
      | false =>
        have passes := passes_refused expected admits fun held => by simp [scalar] at held
        exact .inr (.inr passes.coerce)
    | true =>
      cases admits : kind.admits value with
      | true =>
        cases part
        exact .inr (.inr (coerce_scalar expected scalar admits))
      | false =>
        cases coerced : kind.coerce? value with
        | some made => exact .inl ⟨kind, made, expected, scalar, admits, coerced⟩
        | none => exact .inr (.inr (passes_refused expected admits fun _ => coerced).coerce)

end Content

section Unmended

variable {node part inner : Node} {value content : Value} {route deeper : List Step}

theorem Leads.ordered {step : Step} (leads : Leads node value step part content)
    (ordered : value.Sorted) : content.Sorted := by
  cases leads with
  | field _ _ present =>
    cases ordered with
    | object _ parts => exact parts _ (Fields.mem_of_get? present)
  | element _ _ inside =>
    cases ordered with
    | array parts => exact parts _ (List.mem_of_getElem? inside)

theorem Governs.sorted (governs : Governs node value route part content) (sorted : node.Sorted)
    (ordered : value.Sorted) : part.Sorted ∧ content.Sorted := by
  induction governs with
  | here => exact ⟨sorted, ordered⟩
  | onward first _ ih => exact ih (first.sorted sorted) (first.ordered ordered)

theorem Governs.append {found : Value} (governs : Governs node value route part content)
    (behind : Governs part content deeper inner found) :
    Governs node value (route ++ deeper) inner found := by
  induction governs with
  | here => exact behind
  | onward first _ ih => exact .onward first (ih behind)

def Unmended (node : Node) (value : Value) : Prop :=
  ∀ route part content kind made, Governs node value route part content →
    ¬part.Mends kind content made

theorem Unmended.behind {step : Step} (unmended : Unmended node value)
    (leads : Leads node value step part content) : Unmended part content :=
  fun route inner found kind made governs =>
    unmended (step :: route) inner found kind made (.onward leads governs)

theorem Unmended.coerce (unmended : Unmended node value) (sorted : node.Sorted)
    (ordered : value.Sorted) : node.coerce value = value := by
  induction node using Node.induction generalizing value with
  | step rules items properties ofItems ofProperties =>
    obtain ⟨_, sortedItems, sortedProperties⟩ := sorted
    rcases coerce_cases ⟨rules, items, properties⟩ value with
      ⟨kind, made, mends⟩ | ⟨kind, expected, container, admits⟩ | same
    · exact absurd mends (unmended [] _ value kind made (.here _ value))
    · rcases Kind.container_cases container with rfl | rfl
      · cases value with
        | object fields =>
          have own : Fields.Sorted fields := by
            cases ordered with
            | object own _ => exact own
          rw [coerce_object expected]
          congr 1
          -- In an object in order, a field that is put back comes to stand where it stood.
          apply coerceFields_settled
          intro entry declared content present
          have leads : Leads ⟨rules, items, properties⟩ (.object fields) (.field entry.1) entry.2
              content := .field expected declared present
          have there : Fields.has fields entry.1 = true :=
            Option.isSome_iff_exists.mpr ⟨content, present⟩
          exact ⟨own.placed there, ofProperties entry declared (unmended.behind leads)
            (sortedProperties entry declared) (leads.ordered ordered)⟩
        | _ => cases admits
      · cases value with
        | array values =>
          rw [coerce_array expected]
          congr 1
          apply coerceItems_settled
          intro part shape content member
          obtain ⟨index, here⟩ := List.mem_iff_getElem?.mp member
          have leads : Leads ⟨rules, items, properties⟩ (.array values) (.element index) part
              content := .element expected shape here
          exact ofItems part shape (unmended.behind leads) (sortedItems part shape)
            (leads.ordered ordered)
        | _ => cases admits
    · exact same

end Unmended

/-- What coercion by a node does at a place of a value, before and after. -/
structure Change (node : Node) (value : Value) (route : List Step) (before after : Value) :
    Prop where
  /-- A mismatched scalar becomes what can be made of it. -/
  mended : ∀ part kind made, Governs node value route part before →
    part.Mends kind before made → after = made
  /-- An object that its node expects keeps its names, and such an array its length. -/
  framed : ∀ part kind, Governs node value route part before → part.Enters kind before →
    before.SameFrame after
  /-- But for its parts, a value changes only where it is mended. -/
  own : ¬before.SameFrame after → ∃ part kind, Governs node value route part before ∧
    part.Mends kind before after
  /-- Nothing changes in a document in order but what is mended, at the place or inside of it. -/
  changed : value.Sorted → after ≠ before → ∃ deeper inner kind content made,
    Governs node value (route ++ deeper) inner content ∧ inner.Mends kind content made
  /-- A place to which no declarations lead is copied. -/
  undeclared : (∀ part, ¬Governs node value route part before) → after = before
  /-- So is one whose node expects nothing, another container, or a scalar that cannot be made. -/
  passed : ∀ part, Governs node value route part before → part.Passes before → after = before

theorem Governs.change {node part : Node} {value before : Value} {route : List Step}
    (governs : Governs node value route part before) (sorted : node.Sorted) :
    Change node value route before (part.coerce before) := by
  -- Another node that speaks about the place makes the same of it, as the place is coerced once.
  have unique {other : Node} (also : Governs node value route other before) :
      part.coerce before = other.coerce before := by
    have here := governs.at?_coerce sorted
    rw [also.at?_coerce sorted] at here
    exact (Option.some.inj here).symm
  constructor
  case mended =>
    intro other kind made also mends
    rw [unique also, mends.coerce]
  case framed =>
    intro other kind also enters
    rw [unique also]
    exact enters.coerce
  case own =>
    intro differs
    rcases part.coerce_cases before with ⟨kind, made, mends⟩ | ⟨kind, enters⟩ | same
    · exact ⟨part, kind, governs, mends.coerce.symm ▸ mends⟩
    · exact absurd enters.coerce differs
    · exact absurd (same.symm ▸ Value.SameFrame.refl before) differs
  case changed =>
    intro ordered differs
    obtain ⟨partSorted, beforeOrdered⟩ := governs.sorted sorted ordered
    by_contra nothing
    have unmended : Unmended part before := fun deeper inner content kind made behind mends =>
      nothing ⟨deeper, inner, kind, content, made, governs.append behind, mends⟩
    exact differs (unmended.coerce partSorted beforeOrdered)
  case undeclared => exact fun alone => absurd governs (alone part)
  case passed =>
    intro other also passes
    rw [unique also, passes.coerce]

theorem change_kept {node : Node} {value : Value} {route : List Step} (before : Value)
    (alone : ∀ part, ¬Governs node value route part before) :
    Change node value route before before where
  mended part _ _ governs := absurd governs (alone part)
  framed part _ governs := absurd governs (alone part)
  own differs := absurd (Value.SameFrame.refl before) differs
  changed _ differs := absurd rfl differs
  undeclared _ := rfl
  passed _ _ _ := rfl

/-- Coercion keeps the places of a document, and all it does to them is to mend what can be mended:
objects keep their names and arrays their length, and what no matching containers lead to stays as
it is. -/
theorem coerce_changes (node : Node) (sorted : node.Sorted) (value : Value) (route : List Step) :
    ((node.coerce value).at? route).isSome = (value.at? route).isSome ∧
    ∀ before after, value.at? route = some before → (node.coerce value).at? route = some after →
      Change node value route before after := by
  by_cases governed : ∃ part content, Governs node value route part content
  · obtain ⟨part, content, governs⟩ := governed
    rw [governs.at?, governs.at?_coerce sorted]
    refine ⟨rfl, fun before after found reached => ?_⟩
    obtain rfl := Option.some.inj found
    obtain rfl := Option.some.inj reached
    exact governs.change sorted
  · have alone (part : Node) (content : Value) : ¬Governs node value route part content :=
      fun governs => governed ⟨part, content, governs⟩
    rw [at?_coerce_kept sorted alone]
    refine ⟨rfl, fun before after found reached => ?_⟩
    obtain rfl := Option.some.inj (found.symm.trans reached)
    exact change_kept before fun part => alone part before

/-- In an order the first amount is a text that can be read, and its node is that of the amounts. -/
theorem coerce_changes_order :
    let order := (ofKind .object).withProperty "amounts" (array (ofKind .integer))
    let value := Value.object [("amounts", .array [.string "12"]), ("note", .string "13")]
    let route := [Step.field "amounts", .element 0]
    order.Sorted ∧ Governs order value route (ofKind .integer) (.string "12") ∧
      ∃ after, (order.coerce value).at? route = some after ∧
        Change order value route (.string "12") after := by
  intro order value route
  have sorted : order.Sorted :=
    withProperty_sorted (ofKind_sorted .object) "amounts"
      (withItems_sorted (ofKind_sorted .array) (ofKind_sorted .integer))
  have toAmounts : Leads order value (.field "amounts") (array (ofKind .integer))
      (.array [.string "12"]) := .field rfl List.mem_cons_self rfl
  have governs : Governs order value route (ofKind .integer) (.string "12") :=
    .onward toAmounts (.onward (.element rfl rfl rfl) (.here _ _))
  obtain ⟨kept, change⟩ := coerce_changes order sorted value route
  rw [governs.at?] at kept
  obtain ⟨after, reached⟩ := Option.isSome_iff_exists.mp kept
  exact ⟨sorted, governs, after, reached, change _ _ governs.at? reached⟩

end Node

end SchemaCheck
