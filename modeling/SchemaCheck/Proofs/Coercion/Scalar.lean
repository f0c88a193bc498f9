import SchemaCheck.Coercion.Basic
import SchemaCheck.Proofs.Json.Value

/-!
What coercion to a kind can make. Integers that are made are signed words (`toInteger?_word`), so
whatever is made has the kind (`Kind.coerce?_admits`), and a settled value either has the kind or is
the value that it was (`Kind.settle_cases`).
-/

namespace SchemaCheck

open Json (Value)

theorem isSignedWord_iff {n : Int} :
    isSignedWord n = true ↔ -(signedBound : Int) ≤ n ∧ n < (signedBound : Int) := by
  rw [isSignedWord, Bool.and_eq_true_iff, decide_eq_true_eq, decide_eq_true_eq]

namespace Coercion

theorem truncate?_word {x : Binary64.Finite} {n : Int} (made : truncate? x = some n) :
    isSignedWord n = true := by
  unfold truncate? at made
  split at made
  next word => exact Option.some.inj made ▸ word
  next => cases made

theorem word?_word {text : List Char} {n : Int} (read : word? text = some n) :
    isSignedWord n = true := (Option.filter_eq_some_iff.mp read).2

theorem bool_word (b : Bool) : isSignedWord (if b then 1 else 0) = true := by
  cases b <;> decide

theorem toInteger?_word {value : Value} {n : Int} (made : toInteger? value = some n) :
    isSignedWord n = true := by
  have truncated {source : Option Binary64.Finite} (cut : source.bind truncate? = some n) :
      isSignedWord n = true := by
    obtain ⟨x, _, kept⟩ := Option.bind_eq_some_iff.mp cut
    exact truncate?_word kept
  cases value with
  | number number =>
    cases number with
    | integer m low high =>
      simp only [toInteger?] at made
      split at made
      next small =>
        obtain rfl := Option.some.inj made
        exact isSignedWord_iff.mpr ⟨low, small⟩
      next => exact truncated made
    | real x => exact truncate?_word made
  | string text =>
    simp only [toInteger?] at made
    split at made
    next word read =>
      obtain rfl := Option.some.inj made
      exact word?_word read
    next => exact truncated made
  | bool b =>
    obtain rfl := Option.some.inj made
    exact bool_word b
  | _ => cases made

end Coercion

open Coercion

theorem Json.Value.ofInt_word {n : Int} (word : isSignedWord n = true) :
    ∃ low high, Value.ofInt n = .number (.integer n low high) := by
  obtain ⟨low, high⟩ := isSignedWord_iff.mp word
  have wide : (signedBound : Int) ≤ (wordBound : Int) := by decide
  exact ⟨low, Int.lt_of_lt_of_le high wide, ofInt_integer n _ _⟩

namespace Kind

variable {kind : Kind} {value made : Value}

theorem coerce?_admits (coerced : kind.coerce? value = some made) : kind.admits made = true := by
  cases kind with
  | integer =>
    obtain ⟨n, whole, rfl⟩ := Option.map_eq_some_iff.mp coerced
    obtain ⟨low, high, exact⟩ := Json.Value.ofInt_word (toInteger?_word whole)
    rw [exact]
    rfl
  | _ =>
    obtain ⟨content, _, rfl⟩ := Option.map_eq_some_iff.mp coerced
    rfl

theorem coerce?_object (scalar : kind.isScalar = true) (fields : List (String × Value)) :
    kind.coerce? (.object fields) = none := by
  cases kind with
  | object => cases scalar
  | array => cases scalar
  | _ => rfl

theorem coerce?_array (scalar : kind.isScalar = true) (items : List Value) :
    kind.coerce? (.array items) = none := by
  cases kind with
  | object => cases scalar
  | array => cases scalar
  | _ => rfl

theorem settle_of_some (scalar : kind.isScalar = true) (coerced : kind.coerce? value = some made) :
    kind.settle value = made := by
  rw [settle, if_pos scalar, coerced, Option.getD_some]

theorem settle_of_none (hopeless : kind.isScalar = true → kind.coerce? value = none) :
    kind.settle value = value := by
  unfold settle
  split
  next scalar => rw [hopeless scalar, Option.getD_none]
  next => rfl

theorem settle_cases (kind : Kind) (value : Value) :
    (kind.isScalar = true ∧ kind.admits (kind.settle value) = true) ∨
      kind.settle value = value := by
  cases scalar : kind.isScalar with
  | false => exact .inr (settle_of_none fun held => absurd held (by simp [scalar]))
  | true =>
    cases coerced : kind.coerce? value with
    | none => exact .inr (settle_of_none fun _ => coerced)
    | some made =>
      rw [settle_of_some scalar coerced]
      exact .inl ⟨rfl, coerce?_admits coerced⟩

end Kind

end SchemaCheck
