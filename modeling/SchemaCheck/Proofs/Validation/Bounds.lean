import Mathlib.Tactic.NormNum
import SchemaCheck.Proofs.Number.Nearest
import SchemaCheck.Proofs.Validation.Engine

/-!
The bounds of a number, at an integer. Both engines compare the nearest binary64 number, so that
nothing is ever found on the wrong side of a bound (`integer_bounds`); an integer beyond a bound
that is rounded to this bound passes, which takes an integer of more than 53 binary digits.
-/

namespace SchemaCheck

open Json (Value)
open Binary64 (ofInt Finite)

theorem Rules.mem_numberViolations {rules : Rules} {x : Binary64} {violation : Violation} :
    violation ∈ rules.numberViolations x ↔
      (∃ bound ∈ rules.minimum, x.lt bound = true ∧ violation = .belowMinimum bound) ∨
        ∃ bound ∈ rules.maximum, bound.lt x = true ∧ violation = .aboveMaximum bound := by
  unfold numberViolations
  cases rules.minimum <;> cases rules.maximum <;> simp

namespace Json

theorem integer_small {n : Int} (low : -(signedBound : Int) ≤ n) (high : n < (wordBound : Int)) :
    n.natAbs ≤ twoTo 64 := by
  have signed : signedBound = 9223372036854775808 := by decide
  have unsigned : wordBound = 18446744073709551616 := by decide
  have word : twoTo 64 = 18446744073709551616 := by decide
  omega

end Json

namespace Reference

variable {settings : ValidationSettings} {registry : Registry} {node : Node} {kind : Kind}
  {location : Location}

/-- A node for numbers finds in an integer what its bounds say, and what its custom validator
says. -/
theorem nodeFindings_integer (near : location.depth ≤ settings.maxDepth)
    (expected : node.rules.kind = some kind) (numeric : kind = .integer ∨ kind = .number) {n : Int}
    (low : -(signedBound : Int) ≤ n) (high : n < (wordBound : Int)) :
    nodeFindings settings registry node location (.number (.integer n low high)) =
      (node.rules.numberViolations (ofInt n)).map (Finding.mk location.path) ++
        node.rules.customFindings registry location (.number (.integer n low high)) := by
  have admits : kind.admits (.number (.integer n low high)) = true := by
    rcases numeric with rfl | rfl <;> rfl
  rw [nodeFindings_content (Nat.not_lt.mpr near) expected (adapt?_admitted settings admits)]
  rfl

theorem nodeRequests_integer (near : location.depth ≤ settings.maxDepth)
    (expected : node.rules.kind = some kind) (numeric : kind = .integer ∨ kind = .number) {n : Int}
    (low : -(signedBound : Int) ≤ n) (high : n < (wordBound : Int)) :
    nodeRequests settings node location.depth (.number (.integer n low high)) = [] := by
  have admits : kind.admits (.number (.integer n low high)) = true := by
    rcases numeric with rfl | rfl <;> rfl
  rw [nodeRequests_content (Nat.not_lt.mpr near) expected (adapt?_admitted settings admits)]
  rfl

/-- Wherever a node for numbers with finite bounds stands, both engines report an integer below the
least number, and one above the greatest, except where it is rounded to that bound. They report
nothing else but what the custom validator says. No integer of up to 53 binary digits is rounded. -/
theorem integer_bounds (settings : ValidationSettings) (registry : Registry)
    (near : location.depth ≤ settings.maxDepth) (expected : node.rules.kind = some kind)
    (numeric : kind = .integer ∨ kind = .number) {least most : Option Finite}
    (minimum : node.rules.minimum = least.map .finite)
    (maximum : node.rules.maximum = most.map .finite) (n : Int)
    (low : -(signedBound : Int) ≤ n) (high : n < (wordBound : Int)) :
    let value := Value.number (.integer n low high)
    let custom := node.rules.customFindings registry location value
    ∃ reported : List Violation,
      nodeFindings settings registry node location value =
        reported.map (Finding.mk location.path) ++ custom ∧
      Optimized.Reports (Optimized.checkNode settings registry node location.depth value)
        location.path (Optimized.messagesAt location.path reported ++ custom.map Finding.message)
        [] ∧
      (∀ violation, violation ∈ reported ↔
        (∃ bound ∈ least, (n : ℚ) < bound.toRat ∧ ofInt n ≠ .finite bound ∧
          violation = .belowMinimum (.finite bound)) ∨
        ∃ bound ∈ most, bound.toRat < n ∧ ofInt n ≠ .finite bound ∧
          violation = .aboveMaximum (.finite bound)) ∧
      (n.natAbs ≤ twoTo 53 → ∀ bound : Finite, bound.toRat ≠ n → ofInt n ≠ .finite bound) := by
  intro value custom
  have small := Json.integer_small low high
  have found : nodeFindings settings registry node location value =
      (node.rules.numberViolations (ofInt n)).map (Finding.mk location.path) ++ custom :=
    nodeFindings_integer near expected numeric low high
  refine ⟨node.rules.numberViolations (ofInt n), found, ?_, fun violation => ?_,
    fun short bound other nearest => other (Binary64.toRat_ofInt nearest short)⟩
  · have reports := Optimized.checkNode_reports settings registry node location value
    rwa [found, List.map_append, Optimized.messagesAt_findings,
      nodeRequests_integer near expected numeric] at reports
  · rw [Rules.mem_numberViolations, minimum, maximum]
    simp only [Option.mem_map, exists_exists_and_eq_and, Binary64.ofInt_lt small,
      Binary64.lt_ofInt small, and_assoc]

/-- An integer above the greatest one that is allowed is reported. -/
theorem integer_bounds_above :
    let most := (ofInt 9007199254740992).finite?.getD .zero
    let node : Node := { rules := { kind := some .integer, maximum := some (.finite most) } }
    let location := Location.root.element 2
    location.depth ≤ (ValidationSettings.strict 8).maxDepth ∧
    node.rules.kind = some .integer ∧
    node.rules.minimum = (none : Option Finite).map .finite ∧
    node.rules.maximum = (some most).map .finite ∧
    ∃ reported : List Violation,
      nodeFindings (.strict 8) .standard node location
        (.number (.integer 9007199254740995 (by decide) (by decide))) =
          reported.map (Finding.mk location.path) ∧
      .aboveMaximum (.finite most) ∈ reported := by
  intro most node location
  have near : location.depth ≤ (ValidationSettings.strict 8).maxDepth := by decide
  have expected : node.rules.kind = some .integer := rfl
  have minimum : node.rules.minimum = (none : Option Finite).map .finite := rfl
  have maximum : node.rules.maximum = (some most).map .finite := rfl
  have exact : ofInt 9007199254740992 = .finite most := by decide +kernel
  have other : ofInt 9007199254740995 ≠ .finite most := by decide +kernel
  obtain ⟨reported, found, _, members, _⟩ :=
    integer_bounds (.strict 8) .standard near expected (.inl rfl) minimum maximum 9007199254740995
      (by decide) (by decide)
  refine ⟨near, expected, minimum, maximum, reported, found.trans (List.append_nil _),
    (members _).mpr (.inr ⟨most, rfl, ?_, other, rfl⟩)⟩
  rw [Binary64.toRat_ofInt exact (by decide)]
  norm_num

/-- One above the greatest integer that is allowed passes in either engine. -/
theorem integer_bound_unseen :
    let most := (ofInt 9007199254740992).finite?.getD .zero
    let schema := Schema.ofNode
      { rules := { kind := some .integer, maximum := some (.finite most) } }
    let value := Value.number (.integer 9007199254740993 (by decide) (by decide))
    most.toRat < (9007199254740993 : Int) ∧
    ∀ engine, ∃ next,
      (Validator.create engine {}).validate schema value = some (.success, next) := by
  intro most schema value
  have exact : ofInt 9007199254740992 = .finite most := by decide +kernel
  refine ⟨?_, fun engine => ?_⟩
  · rw [Binary64.toRat_ofInt exact (by decide)]
    norm_num
  · obtain ⟨next, validated, _⟩ := (Validator.create_ready engine {}).validate_eq schema value
    have silent : Reference.validate {} .standard schema value = .success := by decide +kernel
    exact ⟨next, validated.trans (congrArg (fun result => some (result, next)) silent)⟩

end Reference

end SchemaCheck
