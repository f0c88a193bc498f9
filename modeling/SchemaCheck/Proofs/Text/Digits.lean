import SchemaCheck.Proofs.Text.Run
import SchemaCheck.Text.Digits

/-!
Runs of digits: where they end in a text, and what they mean. The digits of a number read as the
number (`numeral_digitsOf`), and only zero starts with a zero (`digitsOf_head`).
-/

namespace SchemaCheck.Text

def AllDigits (text : List Char) : Prop := ∀ c ∈ text, c.isDigit = true

def NoDigitAhead (rest : List Char) : Prop := ∀ c ∈ rest.head?, c.isDigit = false

/-- The text goes on with a digit, if it goes on. -/
def DigitAhead (rest : List Char) : Prop := ∀ c ∈ rest.head?, c.isDigit = true

theorem noDigitAhead_nil : NoDigitAhead [] := noneAhead_nil

theorem noDigitAhead_cons (c : Char) (other : c.isDigit = false) (rest : List Char) :
    NoDigitAhead (c :: rest) := noneAhead_cons other rest

section Runs

variable {digits rest : List Char}

theorem takeWhile_digits (all : AllDigits digits) (ahead : NoDigitAhead rest) :
    (digits ++ rest).takeWhile Char.isDigit = digits := takeWhile_run all ahead

theorem dropWhile_digits (all : AllDigits digits) (ahead : NoDigitAhead rest) :
    (digits ++ rest).dropWhile Char.isDigit = rest := dropWhile_run all ahead

theorem AllDigits.append {others : List Char} (all : AllDigits digits) (also : AllDigits others) :
    AllDigits (digits ++ others) :=
  fun c member => (List.mem_append.mp member).elim (all c) (also c)

theorem AllDigits.take (all : AllDigits digits) (count : Nat) : AllDigits (digits.take count) :=
  fun c member => all c (List.mem_of_mem_take member)

theorem AllDigits.drop (all : AllDigits digits) (count : Nat) : AllDigits (digits.drop count) :=
  fun c member => all c (List.mem_of_mem_drop member)

theorem allDigits_zeros (count : Nat) : AllDigits (List.replicate count '0') := by
  intro c member
  rw [(List.mem_replicate.mp member).2]
  rfl

theorem allDigits_zero : AllDigits ['0'] := allDigits_zeros 1

theorem AllDigits.ahead (all : AllDigits digits) : DigitAhead digits :=
  fun c first => all c (List.mem_of_mem_head? first)

theorem AllDigits.ahead_append (all : AllDigits digits) (filled : digits ≠ [])
    (rest : List Char) : DigitAhead (digits ++ rest) := by
  obtain ⟨c, more, rfl⟩ := List.exists_cons_of_ne_nil filled
  intro d first
  rw [← Option.some.inj first]
  exact all c List.mem_cons_self

theorem natural?_digits (all : AllDigits digits) (filled : digits ≠ []) :
    natural? digits = some (numeral digits) := by
  have every : digits.all Char.isDigit = true := List.all_eq_true.mpr all
  rw [natural?, List.isEmpty_eq_false_iff.mpr filled, every]
  rfl

theorem natural?_none {c : Char} {text : List Char} (member : c ∈ text)
    (other : c.isDigit = false) : natural? text = none := by
  refine if_neg fun digits => ?_
  have all := List.all_eq_true.mp (Bool.and_eq_true_iff.mp digits).2
  rw [all c member] at other
  cases other

theorem unsigned?_of_starts {c : Char} {rest : List Char} (digit : c.isDigit = true) :
    unsigned? (c :: rest) = natural? (c :: rest) := by
  rw [unsigned?]
  intro _ same
  rw [(List.cons.inj same).1] at digit
  cases digit

theorem integer?_of_starts {c : Char} {rest : List Char} (digit : c.isDigit = true) :
    integer? (c :: rest) = (natural? (c :: rest)).map Int.ofNat := by
  rw [integer?, unsigned?_of_starts digit]
  intro _ same
  rw [(List.cons.inj same).1] at digit
  cases digit

end Runs

section Numerals

/-- The number that digits make behind those of another number. -/
abbrev numeralFrom (start : Nat) (digits : List Char) : Nat := Nat.ofDigitChars 10 digits start

theorem numeralFrom_cons (start : Nat) (c : Char) (digits : List Char) :
    numeralFrom start (c :: digits) = numeralFrom (start * 10 + (c.toNat - '0'.toNat)) digits := by
  rw [numeralFrom, Nat.ofDigitChars_cons, Nat.mul_comm]

theorem le_numeralFrom (start : Nat) (digits : List Char) : start ≤ numeralFrom start digits := by
  rw [numeralFrom, Nat.ofDigitChars_eq_ofDigitChars_zero]
  exact Nat.le_add_right_of_le (Nat.le_mul_of_pos_left _ (Nat.pow_pos (by decide)))

theorem digitsOf_all (n : Nat) : AllDigits (digitsOf n) :=
  fun _ member => Nat.isDigit_of_mem_toDigits (by decide) (by decide) member

theorem digitsOf_ne_nil (n : Nat) : digitsOf n ≠ [] := Nat.toDigits_ne_nil

theorem numeral_digitsOf (n : Nat) : numeralFrom 0 (digitsOf n) = n := Nat.ofDigitChars_ten_toDigits

theorem digitsOf_head (n : Nat) (filled : n ≠ 0) :
    ∃ c rest, digitsOf n = c :: rest ∧ c ≠ '0' := by
  induction n using Nat.strongRecOn with
  | ind n ih =>
    rw [digitsOf, Nat.toDigits_eq_if (by decide)]
    split
    next small =>
      refine ⟨n.digitChar, [], rfl, ?_⟩
      intro zero
      have all : ∀ m < 10, m ≠ 0 → m.digitChar ≠ '0' := by decide
      exact all n small filled zero
    next large =>
      obtain ⟨c, rest, leading, notZero⟩ := ih (n / 10) (by omega) (by omega)
      rw [digitsOf] at leading
      exact ⟨c, rest ++ [(n % 10).digitChar], by rw [leading]; rfl, notZero⟩

end Numerals

end SchemaCheck.Text
