import Mathlib.Data.List.Basic
import SchemaCheck.Proofs.Validation.Engine
import SchemaCheck.Proofs.Validation.Traversal

/-!
Two validations that differ in their greatest depth. The places that the shallower one visits are
those places of the deeper one that lie at most one step behind its greatest depth
(`visited_within_iff`), and what it finds is what the deeper one finds, with one message in the
stead of all that is found at and inside each of the places at that last step
(`deeper_findings_replaced`).
-/

namespace SchemaCheck

open Json (Value)
open Reference

namespace Visit

variable {near far : Nat} {start visit child : Visit}

theorem Child.length (step : Child far visit child) :
    child.route.length = visit.route.length + 1 := by
  cases step <;> exact List.length_append

/-- Whether a place has a child depends on the greatest depth only by the depth of the place. -/
theorem Child.within (step : Child far visit child) (shallow : visit.route.length ≤ near) :
    Child near visit child := by
  cases step with
  | field _ expected declared present => exact .field shallow expected declared present
  | element _ expected shape inside => exact .element shallow expected shape inside

theorem Child.parent_near (step : Child near visit child) : visit.route.length ≤ near := by
  cases step <;> assumption

/-- The places that a smaller depth lets be reached are those of a greater depth down to one step
behind the smaller one. -/
theorem visited_within_iff (le : near ≤ far) (shallow : start.route.length ≤ near + 1) :
    Visited near start visit ↔ Visited far start visit ∧ visit.route.length ≤ near + 1 := by
  constructor
  · intro visited
    induction visited with
    | refl => exact ⟨.refl, shallow⟩
    | tail _ step ih =>
      have parent := step.parent_near
      refine ⟨ih.1.tail (step.within (Nat.le_trans parent le)), ?_⟩
      rw [step.length]
      exact Nat.succ_le_succ parent
  · rintro ⟨visited, within⟩
    induction visited with
    | refl => exact .refl
    | tail _ step ih =>
      have parent := step.length
      exact (ih (by omega)).tail (step.within (by omega))

def cut (depth : Nat) (visit : Visit) : List Finding := [⟨visit.location.path, .tooDeep depth⟩]

variable {coerce : Bool} {registry : Registry}

/-- Down to the smaller depth the same is found with both depths, and behind it nothing but the
depth itself. -/
theorem reports_cut (le : near ≤ far) (visit : Visit) (phase : Phase) :
    visit.reports ⟨coerce, near⟩ registry phase =
      visit.listed ⟨coerce, far⟩ registry near (cut near) phase := by
  unfold listed
  split
  next shallow =>
    have nearEnough : ¬near < visit.route.length := Nat.not_lt.mpr shallow
    have farEnough : ¬far < visit.route.length := Nat.not_lt.mpr (Nat.le_trans shallow le)
    cases phase <;> (simp only [reports, if_neg nearEnough, if_neg farEnough]; rfl)
  next below =>
    have deep : near < visit.route.length := Nat.lt_of_not_le below
    cases phase with
    | opening => simp only [reports, if_pos deep, cut]
    | closing => simp only [reports, if_pos deep]

end Visit

/-- Of two validations with either engine, the one with the smaller depth lists what the other one
lists, with one change: where the other lists all that it finds at a place one step behind the
smaller depth and inside it, it has the one message that says so. Where no such place is visited,
the results are the same. -/
theorem deeper_findings_replaced (schema : Schema) (sorted : schema.node.Sorted) {coerce : Bool}
    {registry : Registry} {near far : Nat} (le : near ≤ far) {first second : Validator}
    (isNear : first.Ready ⟨coerce, near⟩ registry) (isFar : second.Ready ⟨coerce, far⟩ registry)
    (value : Value) :
    ∃ shallow deep firstNext secondNext,
      first.validate schema value = some (shallow, firstNext) ∧
      second.validate schema value = some (deep, secondNext) ∧
      (∃ events : List (Visit × Phase), InOrder events ∧ events.Nodup ∧
        (∀ visit phase, (visit, phase) ∈ events ↔
          Visit.Visited far ⟨[], schema.node, value⟩ visit ∧ visit.route.length ≤ near + 1) ∧
        (deep.errors = events.flatMap fun event =>
          (event.1.listed ⟨coerce, far⟩ registry near (Visit.block ⟨coerce, far⟩ registry)
            event.2).map Finding.message) ∧
        (shallow.errors = events.flatMap fun event =>
          (event.1.listed ⟨coerce, far⟩ registry near (Visit.cut near) event.2).map
            Finding.message)) ∧
      ((∀ visit, Visit.Visited far ⟨[], schema.node, value⟩ visit →
        visit.route.length ≠ near + 1) → shallow = deep) := by
  obtain ⟨firstNext, validated, _⟩ := isNear.validate_eq schema value
  obtain ⟨secondNext, revalidated, _⟩ := isFar.validate_eq schema value
  have members (visit : Visit) (phase : Phase) :
      (visit, phase) ∈ nodeEvents near schema.node [] value ↔
        Visit.Visited far ⟨[], schema.node, value⟩ visit ∧ visit.route.length ≤ near + 1 :=
    (mem_nodeEvents schema.node [] value visit phase).trans
      (Visit.visited_within_iff le (Nat.zero_le _))
  have deepList : nodeFindings ⟨coerce, far⟩ registry schema.node .root value =
      (nodeEvents near schema.node [] value).flatMap fun event =>
        event.1.listed ⟨coerce, far⟩ registry near (Visit.block ⟨coerce, far⟩ registry) event.2 :=
    nodeFindings_listed le schema.node [] value
  have shallowList : nodeFindings ⟨coerce, near⟩ registry schema.node .root value =
      (nodeEvents near schema.node [] value).flatMap fun event =>
        event.1.listed ⟨coerce, far⟩ registry near (Visit.cut near) event.2 := by
    have places : nodeFindings ⟨coerce, near⟩ registry schema.node .root value = _ :=
      nodeFindings_reports schema.node [] value
    simpa only [Visit.reports_cut le] using places
  have ordered : InOrder (nodeEvents near schema.node [] value) :=
    nodeEvents_inOrder sorted [] value
  refine ⟨_, _, firstNext, secondNext, validated, revalidated,
    ⟨nodeEvents near schema.node [] value, ordered, ordered.nodup, members, ?_, ?_⟩, ?_⟩
  · rw [validate, ValidationResult.ofFindings, ValidationResult.ofErrors, deepList,
      List.map_flatMap]
  · rw [validate, ValidationResult.ofFindings, ValidationResult.ofErrors, shallowList,
      List.map_flatMap]
  · intro none
    unfold validate
    rw [deepList, shallowList]
    congr 1
    refine List.flatMap_congr fun event member => ?_
    obtain ⟨visited, within⟩ := (members event.1 event.2).mp member
    have inside : event.1.route.length ≤ near := by
      have := none event.1 visited
      omega
    simp only [Visit.listed, if_pos inside]

/-- In lists of lists of texts the texts lie two steps deep. With a depth of one, each of them is
told of once, whatever is found there with a depth of eight. -/
theorem deeper_findings_replaced_texts :
    let schema := Schema.ofNode (.array (.array (.ofKind .string)))
    let value := Value.array [.array [.null, .string "a"], .null]
    let first := Validator.create .optimized (.strict 1)
    let second := Validator.create .reference (.strict 8)
    schema.node.Sorted ∧ 1 ≤ 8 ∧ first.Ready (.strict 1) .standard ∧
    second.Ready (.strict 8) .standard ∧
    ∃ shallow deep firstNext secondNext,
      first.validate schema value = some (shallow, firstNext) ∧
      second.validate schema value = some (deep, secondNext) ∧
      ∃ events : List (Visit × Phase), InOrder events ∧ events.Nodup ∧
        (∀ visit phase, (visit, phase) ∈ events ↔
          Visit.Visited 8 ⟨[], schema.node, value⟩ visit ∧ visit.route.length ≤ 2) ∧
        (deep.errors = events.flatMap fun event =>
          (event.1.listed (.strict 8) .standard 1 (Visit.block (.strict 8) .standard)
            event.2).map Finding.message) ∧
        (shallow.errors = events.flatMap fun event =>
          (event.1.listed (.strict 8) .standard 1 (Visit.cut 1) event.2).map Finding.message) := by
  intro schema value first second
  have sorted : schema.node.Sorted :=
    Node.withItems_sorted (Node.ofKind_sorted .array)
      (Node.withItems_sorted (Node.ofKind_sorted .array) (Node.ofKind_sorted .string))
  have isFirst : first.Ready (.strict 1) .standard := Validator.create_ready .optimized _
  have isSecond : second.Ready (.strict 8) .standard := Validator.create_ready .reference _
  have le : 1 ≤ 8 := by decide
  obtain ⟨shallow, deep, firstNext, secondNext, validated, revalidated, replaced, _⟩ :=
    deeper_findings_replaced schema sorted le isFirst isSecond value
  exact ⟨sorted, le, isFirst, isSecond, shallow, deep, firstNext, secondNext, validated,
    revalidated, replaced⟩

end SchemaCheck
