import SchemaCheck.Coercion.Semantic
import SchemaCheck.Proofs.Coercion.Numeral
import SchemaCheck.Proofs.Number.Distance
import SchemaCheck.Proofs.Validation.Bounds

/-!
Coercion to a kind, and the values that have the kind already. What is made has the kind and is made
into itself, so that an engine that coerces a value never refuses what it has made
(`Kind.coerce?_stable`). A value of the kind stays as it is, except for numbers: an integer keeps
its value if it is a signed word and is lost otherwise, and any other number is rounded
(`Kind.read?_admitted`).
-/

namespace SchemaCheck

open Json (Value Number)
open Coercion
open Binary64 (Finite)

section Stability

variable {kind : Kind} {value made : Value}

theorem Kind.coerce?_coerce? (coerced : kind.coerce? value = some made) :
    kind.coerce? made = some made := by
  cases kind with
  | integer =>
    obtain ⟨n, whole, rfl⟩ := Option.map_eq_some_iff.mp coerced
    have word := toInteger?_word whole
    obtain ⟨low, high, exact⟩ := Json.Value.ofInt_word word
    have small := (isSignedWord_iff.mp word).2
    rw [Kind.coerce?, exact, toInteger?, if_pos small, Option.map_some, exact]
  | _ =>
    obtain ⟨content, _, rfl⟩ := Option.map_eq_some_iff.mp coerced
    rfl

theorem Rules.notOfKind_not_mem_textViolations (rules : Rules) (text : String) :
    .notOfKind kind ∉ (rules.textViolations text).1 := by
  have lengths : .notOfKind kind ∉ rules.lengthViolations text := by
    unfold lengthViolations
    cases rules.minLength <;> cases rules.maxLength <;> simp
  have allowed : .notOfKind kind ∉ rules.allowedViolations text := by
    unfold allowedViolations
    split <;> simp
  have format : .notOfKind kind ∉ rules.formatViolations text := by
    unfold formatViolations
    split
    · simp
    · split
      · split <;> simp
      · simp
  unfold textViolations
  cases rules.pattern with
  | none => simp [lengths, allowed, format]
  | some source =>
    cases compiled : Pattern.ofText? source with
    | none => simp [compiled, lengths]
    | some pattern =>
      cases matched : pattern.isMatch text <;> simp [compiled, matched, lengths, allowed, format]

theorem Rules.notOfKind_not_mem_customFindings (rules : Rules) (registry : Registry)
    (location : Location) (path : String) :
    ⟨path, .notOfKind kind⟩ ∉ rules.customFindings registry location value := by
  unfold customFindings customViolations
  cases rules.customValidator with
  | none => simp
  | some name => cases known : registry.lookup name <;> simp [known]

open Reference in
theorem Reference.notOfKind_not_mem_nodeFindings {settings : ValidationSettings} {node : Node}
    {location : Location} (registry : Registry) (near : location.depth ≤ settings.maxDepth)
    (expected : node.rules.kind = some kind) (scalar : kind.isScalar = true)
    (admits : kind.admits value = true) :
    ⟨location.path, .notOfKind kind⟩ ∉ nodeFindings settings registry node location value := by
  rw [nodeFindings_content (Nat.not_lt.mpr near) expected (adapt?_admitted settings admits)]
  intro member
  rcases List.mem_append.mp member with content | custom
  · cases value with
    | string text =>
      obtain ⟨violation, found, same⟩ := List.mem_map.mp content
      obtain rfl := (Finding.mk.inj same).2
      exact node.rules.notOfKind_not_mem_textViolations text found
    | number n =>
      obtain ⟨violation, found, same⟩ := List.mem_map.mp content
      obtain rfl := (Finding.mk.inj same).2
      rcases Rules.mem_numberViolations.mp found with ⟨_, _, _, other⟩ | ⟨_, _, _, other⟩ <;>
        cases other
    | object fields => cases kind <;> simp [Kind.isScalar, Kind.admits] at scalar admits
    | array values => cases kind <;> simp [Kind.isScalar, Kind.admits] at scalar admits
    | _ => cases content
  · split at custom
    · exact node.rules.notOfKind_not_mem_customFindings registry location location.path custom
    · cases custom

open Reference in
/-- What coercion to a kind makes has the kind and is made into itself. Where an engine coerces a
value for a scalar node, the value that is made passes the second look at its kind, and either
engine finds in the value exactly what it finds in the one that is made. -/
theorem Kind.coerce?_stable (coerced : kind.coerce? value = some made) :
    kind.admits made = true ∧ kind.coerce? made = some made ∧
    ∀ {settings : ValidationSettings} {node : Node} {location : Location} (registry : Registry),
      settings.coerce = true → kind.isScalar = true → kind.admits value = false →
      node.rules.kind = some kind → location.depth ≤ settings.maxDepth →
      settings.adapt? kind value = some made ∧
      ⟨location.path, .notOfKind kind⟩ ∉ nodeFindings settings registry node location value ∧
      nodeFindings settings registry node location value =
        nodeFindings settings registry node location made ∧
      Optimized.checkNode settings registry node location.depth value =
        Optimized.checkNode settings registry node location.depth made := by
  have admits := coerce?_admits coerced
  refine ⟨admits, coerce?_coerce? coerced, ?_⟩
  intro settings node location registry lenient scalar refuses expected near
  have shallow := Nat.not_lt.mpr near
  have adapted : settings.adapt? kind value = some made := by
    simp [ValidationSettings.adapt?, refuses, lenient, scalar, coerced, Option.filter, admits]
  have kept := adapt?_admitted settings admits
  have same : nodeFindings settings registry node location value =
      nodeFindings settings registry node location made := by
    rw [nodeFindings_content shallow expected adapted, nodeFindings_content shallow expected kept]
  refine ⟨adapted, ?_, same, ?_⟩
  · rw [same]
    exact notOfKind_not_mem_nodeFindings registry near expected scalar admits
  · funext progress
    rw [Optimized.checkNode_content shallow expected adapted,
      Optimized.checkNode_content shallow expected kept]

/-- An amount that is written as a text, coerced under a node for integers. -/
theorem Kind.coerce?_stable_amount :
    let value := Value.string " 12.75 "
    let made := Value.number (.integer 12 (by decide) (by decide))
    let node := Node.ofKind .integer
    let location := Location.root.field "amount"
    let settings := ValidationSettings.lenient 4
    Kind.integer.coerce? value = some made ∧ Kind.integer.coerce? made = some made ∧
      settings.coerce = true ∧ Kind.integer.isScalar = true ∧
      Kind.integer.admits value = false ∧ node.rules.kind = some .integer ∧
      location.depth ≤ settings.maxDepth ∧
      settings.adapt? .integer value = some made := by
  intro value made node location settings
  have coerced : Kind.integer.coerce? value = some made := by
    have read : toInteger? value = some 12 := by decide +kernel
    rw [coerce?, read]
    rfl
  obtain ⟨_, again, engines⟩ := coerce?_stable coerced
  have near : location.depth ≤ settings.maxDepth := by decide
  have expected : node.rules.kind = some .integer := rfl
  have lenient : settings.coerce = true := rfl
  have adapted := (engines .standard lenient rfl rfl expected near).1
  exact ⟨coerced, again, lenient, rfl, rfl, expected, near, adapted⟩

end Stability

section Values

def Json.Number.toRat : Number → ℚ
  | .integer n _ _ => n
  | .real x => x.toRat

theorem toInteger?_integral {x : Number} (whole : x.isIntegral = true) :
    ∃ n : Int, (n : ℚ) = x.toRat ∧
      toInteger? (.number x) = if isSignedWord n then some n else none := by
  cases x with
  | integer n low high =>
    refine ⟨n, rfl, ?_⟩
    by_cases small : n < (signedBound : Int)
    · rw [toInteger?, if_pos small, if_pos (isSignedWord_iff.mpr ⟨low, small⟩)]
    · have outside : isSignedWord n = false := by
        rw [← Bool.not_eq_true, isSignedWord_iff]
        exact fun word => small word.2
      have positive : ¬(-(signedBound : Int) - 1024 ≤ n ∧ n < 0) := fun negative =>
        small (negative.2.trans (by decide))
      rw [toInteger?, if_neg small, truncate?_outside outside, if_neg positive, outside]
      rfl
  | real x => exact ⟨x.truncate, x.truncate_integral whole, rfl⟩

theorem toNumber?_nearest (x : Number) :
    ∃ y : Finite, toNumber? (.number x) = some y ∧ y.Nearest x.toRat := by
  cases x with
  | integer n low high =>
    obtain ⟨y, rounded⟩ := Binary64.ofInt_finite (Json.integer_small low high)
    refine ⟨y, ?_, Binary64.ofInt_nearest rounded⟩
    rw [toNumber?, Number.toBinary64, rounded]
    rfl
  | real x => exact ⟨x, rfl, x.nearest_self⟩

variable {kind : Kind} {value : Value}

/-- A value that has the kind already is read as itself, unless the kind is one of numbers. An
integer is read if it is a signed word, and then exactly; a number is read as the nearest binary64
number. -/
theorem Kind.read?_admitted (admits : kind.admits value = true) :
    (kind = .integer → ∃ (x : Number) (n : Int), value = .number x ∧ (n : ℚ) = x.toRat ∧
      (isSignedWord n = true → ∃ low high,
        kind.read? none value = some (.json (.number (.integer n low high)))) ∧
      (isSignedWord n = false → kind.read? none value = none)) ∧
    (kind = .number → ∃ (x : Number) (y : Finite), value = .number x ∧ y.Nearest x.toRat ∧
      kind.read? none value = some (.json (.number (.real y)))) ∧
    (kind ≠ .integer → kind ≠ .number → kind.read? none value = some (.json value)) := by
  have read : kind.read? none value = (kind.coerce? value).map .json := rfl
  rw [read]
  refine ⟨?_, ?_, ?_⟩
  · rintro rfl
    cases value with
    | number x =>
      obtain ⟨n, exact, made⟩ := toInteger?_integral admits
      refine ⟨x, n, rfl, exact, fun word => ?_, fun outside => ?_⟩
      · obtain ⟨low, high, kept⟩ := Json.Value.ofInt_word word
        refine ⟨low, high, ?_⟩
        rw [coerce?, made, if_pos word, Option.map_some, kept]
        rfl
      · rw [coerce?, made, outside]
        rfl
    | _ => cases admits
  · rintro rfl
    cases value with
    | number x =>
      obtain ⟨y, made, nearest⟩ := toNumber?_nearest x
      refine ⟨x, y, rfl, nearest, ?_⟩
      rw [coerce?, made]
      rfl
    | _ => cases admits
  · intro notInteger notNumber
    cases kind with
    | integer => exact absurd rfl notInteger
    | number => exact absurd rfl notNumber
    | _ =>
      cases value <;> cases admits
      rfl

/-- A number without fraction is read as its integer. -/
theorem Kind.read?_admitted_whole :
    let x := (Binary64.ofInt 4503599627370497).finite?.getD .zero
    let value := Value.number (.real x)
    Kind.integer.admits value = true ∧
      ∃ low high, Kind.integer.read? none value =
        some (.json (.number (.integer 4503599627370497 low high))) := by
  intro x value
  have admits : Kind.integer.admits value = true := by decide +kernel
  have rounded : Binary64.ofInt 4503599627370497 = .finite x := by decide +kernel
  obtain ⟨y, n, same, exact, kept, _⟩ := (read?_admitted admits).1 rfl
  obtain rfl : Number.real x = y := Value.number.inj same
  have whole : (n : ℚ) = (4503599627370497 : Int) :=
    exact.trans (Binary64.toRat_ofInt rounded (by decide))
  obtain rfl : n = 4503599627370497 := Int.cast_inj.mp whole
  exact ⟨admits, kept (by decide)⟩

/-- The least integer that is not a signed word is an integer, but is not read as one. -/
theorem Kind.integer_not_read :
    let value := Value.number (.integer 9223372036854775808 (by decide) (by decide))
    Kind.integer.admits value = true ∧ Kind.integer.read? none value = none := by
  intro value
  have lost : toInteger? value = none := by decide +kernel
  refine ⟨rfl, ?_⟩
  have read : Kind.integer.read? none value =
      ((toInteger? value).map Value.ofInt).map Meaning.json := rfl
  rw [read, lost]
  rfl

end Values

end SchemaCheck
