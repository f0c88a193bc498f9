import SchemaCheck.Number.Power
import SchemaCheck.Proofs.Text.Blank
import SchemaCheck.Proofs.Text.Run
import SchemaCheck.Text.Ascii

/-!
Hexadecimal digits and numerals. A digit that is read is one that is written, up to its case
(`hexDigit_of_hexDigit?`), and the digits of a number read as the number
(`hexNumeral?_hexDigitsOf`).
-/

namespace SchemaCheck.Text

section Digits

variable {c : Char} {n : Nat}

theorem hexDigit?_hexDigit : ∀ n < 16, hexDigit? (hexDigit n) = some n := by decide

theorem isHexDigit_iff : isHexDigit c = true ↔ ∃ n, hexDigit? c = some n := by
  unfold isHexDigit hexDigit?
  by_cases digit : c.isDigit = true
  · rw [if_pos digit, digit, Bool.true_or, Bool.true_or]
    exact ⟨fun _ => ⟨_, rfl⟩, fun _ => rfl⟩
  by_cases lower : ('a' ≤ c && c ≤ 'f') = true
  · rw [if_neg digit, if_pos lower, lower, Bool.or_true, Bool.true_or]
    exact ⟨fun _ => ⟨_, rfl⟩, fun _ => rfl⟩
  rw [if_neg digit, if_neg lower, eq_false_of_ne_true digit, eq_false_of_ne_true lower,
    Bool.false_or, Bool.false_or]
  by_cases upper : ('A' ≤ c && c ≤ 'F') = true
  · rw [if_pos upper, upper]
    exact ⟨fun _ => ⟨_, rfl⟩, fun _ => rfl⟩
  · rw [if_neg upper]
    exact ⟨fun same => absurd same upper, fun ⟨_, read⟩ => nomatch read⟩

theorem toNat_of_isHexDigit (hex : isHexDigit c = true) : 48 ≤ c.toNat ∧ c.toNat ≤ 102 := by
  simp only [isHexDigit, Bool.or_eq_true, Bool.and_eq_true, decide_eq_true_eq] at hex
  rcases hex with (digit | lower) | upper
  · obtain ⟨low, high⟩ := toNat_of_isDigit digit
    omega
  · have range : 97 ≤ c.toNat ∧ c.toNat ≤ 102 := lower
    omega
  · have range : 65 ≤ c.toNat ∧ c.toNat ≤ 70 := upper
    omega

theorem hexDigit?_toUpper (hex : isHexDigit c = true) : hexDigit? c.toUpper = hexDigit? c := by
  have table : ∀ code ≤ 102, isHexDigit (Char.ofNat code) = true →
      hexDigit? (Char.ofNat code).toUpper = hexDigit? (Char.ofNat code) := by decide
  have found := table c.toNat (toNat_of_isHexDigit hex).2
  rw [Char.ofNat_toNat] at found
  exact found hex

theorem isBlank_of_isHexDigit (hex : isHexDigit c = true) : isBlank c = false := by
  obtain ⟨low, high⟩ := toNat_of_isHexDigit hex
  exact isBlank_of_visible (by omega) (by omega)

/-- A digit has a value below sixteen, and it is the digit of this value in either case. -/
theorem hexDigit_of_hexDigit? (read : hexDigit? c = some n) :
    n < 16 ∧ hexDigit n = c.toLower := by
  have table : ∀ code ≤ 102, ∀ value ∈ hexDigit? (Char.ofNat code),
      value < 16 ∧ hexDigit value = (Char.ofNat code).toLower := by decide
  have small := (toNat_of_isHexDigit (isHexDigit_iff.mpr ⟨n, read⟩)).2
  have found := table c.toNat small n
  rw [Char.ofNat_toNat] at found
  exact found read

end Digits

section Numerals

theorem hexDigitsOf_ne_nil (n : Nat) : hexDigitsOf n ≠ [] := Nat.toDigits_ne_nil

theorem hexDigitsOf_all (n : Nat) : ∀ c ∈ hexDigitsOf n, isHexDigit c = true := by
  induction n using Nat.strongRecOn with
  | ind n ih =>
    have digit : ∀ m < 16, isHexDigit m.digitChar = true := by decide
    rw [hexDigitsOf, Nat.toDigits_eq_if (by decide)]
    split
    next small => exact List.forall_mem_singleton.mpr (digit n small)
    next large =>
      intro c member
      rcases List.mem_append.mp member with front | last
      · exact ih (n / 16) (by omega) c front
      · rw [List.mem_singleton.mp last]
        exact digit (n % 16) (Nat.mod_lt n (by decide))

theorem hexNumeral?_hexDigitsOf (n : Nat) : hexNumeral? (hexDigitsOf n) = some n := by
  rw [hexNumeral?, List.isEmpty_eq_false_iff.mpr (hexDigitsOf_ne_nil n), if_neg Bool.false_ne_true]
  induction n using Nat.strongRecOn with
  | ind n ih =>
    have digit : ∀ m < 16, hexDigit? m.digitChar = some m := by decide
    rw [hexDigitsOf, Nat.toDigits_eq_if (by decide)]
    split
    next small =>
      rw [List.foldlM_cons, digit n small]
      show some (0 * 16 + n) = some n
      rw [Nat.zero_mul, Nat.zero_add]
    next large =>
      have front := ih (n / 16) (by omega)
      rw [hexDigitsOf] at front
      rw [List.foldlM_append, front, Option.bind_eq_bind, Option.bind_some, List.foldlM_cons,
        digit (n % 16) (Nat.mod_lt n (by decide))]
      show some (n / 16 * 16 + n % 16) = some n
      rw [Nat.div_add_mod']

theorem length_hexDigitsOf {n width : Nat} (some : 0 < width) (fits : n < twoTo (4 * width)) :
    (hexDigitsOf n).length ≤ width :=
  (Nat.length_toDigits_le_iff (by decide) some).mpr (fits.trans_eq (Nat.pow_mul 2 4 width))

theorem hexNumeral?_zeros {text : List Char} (filled : text ≠ []) (count : Nat) :
    hexNumeral? (List.replicate count '0' ++ text) = hexNumeral? text := by
  have zeros : (List.replicate count '0').foldlM
      (fun value c => (hexDigit? c).map (value * 16 + ·)) 0 = some 0 := by
    induction count with
    | zero => rfl
    | succ count ih => exact ih
  have some : List.isEmpty (List.replicate count '0' ++ text) = false := by simp [filled]
  rw [hexNumeral?, hexNumeral?, some, List.isEmpty_eq_false_iff.mpr filled, List.foldlM_append,
    zeros]
  rfl

theorem hexNumeral?_toUpper {text : List Char} (hex : ∀ c ∈ text, isHexDigit c = true) :
    hexNumeral? (text.map Char.toUpper) = hexNumeral? text := by
  suffices folded : ∀ start, (text.map Char.toUpper).foldlM
      (fun value c => (hexDigit? c).map (value * 16 + ·)) start =
        text.foldlM (fun value c => (hexDigit? c).map (value * 16 + ·)) start by
    rw [hexNumeral?, hexNumeral?, List.isEmpty_map, folded]
  intro start
  induction text generalizing start with
  | nil => rfl
  | cons c text ih =>
    have more := ih fun d member => hex d (List.mem_cons_of_mem c member)
    rw [List.map_cons, List.foldlM_cons, List.foldlM_cons,
      hexDigit?_toUpper (hex c List.mem_cons_self)]
    cases hexDigit? c with
    | none => rfl
    | some n => exact more _

end Numerals

end SchemaCheck.Text
