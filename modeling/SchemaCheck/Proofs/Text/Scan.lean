import SchemaCheck.Number.Power
import SchemaCheck.Proofs.Text.Blank
import SchemaCheck.Proofs.Text.Digits
import SchemaCheck.Text.Scan

/-!
Reading numbers, marks and words from the front of a text. A number that is padded with zeros has as
many digits as it is wide, and reads as the number (`scanNumber_padded`); an integer that is written
out reads as the integer (`integer?_decimal`).
-/

namespace SchemaCheck.Text

theorem numeral_eq (digits : List Char) : numeral digits = numeralFrom 0 digits := by
  suffices from_start : ∀ start, digits.foldl
      (fun value c => value * 10 + (c.toNat - '0'.toNat)) start = numeralFrom start digits by
    exact from_start 0
  induction digits with
  | nil => exact fun _ => rfl
  | cons c rest ih =>
    intro start
    rw [List.foldl_cons, ih, numeralFrom_cons]

theorem numeral_zeros (digits : List Char) (count : Nat) :
    numeral (digits ++ List.replicate count '0') = numeral digits * tenTo count := by
  rw [numeral_eq, numeral_eq, numeralFrom, Nat.ofDigitChars_append,
    Nat.ofDigitChars_replicate_zero, Nat.mul_comm]
  rfl

theorem numeral_zeros_append (count : Nat) (digits : List Char) :
    numeral (List.replicate count '0' ++ digits) = numeral digits := by
  rw [numeral_eq, numeral_eq, numeralFrom, Nat.ofDigitChars_append,
    Nat.ofDigitChars_replicate_zero, Nat.mul_zero]

theorem numeral_digits (n : Nat) : numeral (digitsOf n) = n := by
  rw [numeral_eq, numeral_digitsOf]

theorem AllDigits.solid {digits : List Char} (all : AllDigits digits) :
    ∀ c ∈ digits, isBlank c = false :=
  fun c member => isBlank_of_isDigit (all c member)

section Padded

variable {width n : Nat}

theorem padded_all (width n : Nat) : AllDigits (padded width n) :=
  (allDigits_zeros _).append (digitsOf_all n)

theorem padded_solid (width n : Nat) : ∀ c ∈ padded width n, isBlank c = false :=
  (padded_all width n).solid

theorem numeral_padded (width n : Nat) : numeral (padded width n) = n := by
  rw [padded, numeral_zeros_append, numeral_digits]

theorem length_padded (positive : 0 < width) (fits : n < tenTo width) :
    (padded width n).length = width := by
  have short : (digitsOf n).length ≤ width :=
    (Nat.length_toDigits_le_iff (by decide) positive).mpr fits
  rw [padded, List.length_append, List.length_replicate]
  omega

theorem padded_ne_nil (width n : Nat) : padded width n ≠ [] :=
  List.append_ne_nil_of_right_ne_nil _ (digitsOf_ne_nil n)

theorem integer?_digitsOf (n : Nat) : integer? (digitsOf n) = some (n : Int) := by
  obtain ⟨c, rest, spelled⟩ := List.exists_cons_of_ne_nil (digitsOf_ne_nil n)
  have digit := digitsOf_all n c (spelled ▸ List.mem_cons_self)
  have whole := natural?_digits (digitsOf_all n) (digitsOf_ne_nil n)
  rw [spelled] at whole ⊢
  rw [integer?_of_starts digit, whole, ← spelled, numeral_digits]
  rfl

theorem decimal_ne_nil (n : Int) : decimal n ≠ [] := by
  unfold decimal
  split
  · exact List.cons_ne_nil _ _
  · exact digitsOf_ne_nil _

theorem decimal_solid (n : Int) : ∀ c ∈ decimal n, isBlank c = false := by
  unfold decimal
  split
  · exact List.forall_mem_cons.mpr ⟨rfl, (digitsOf_all _).solid⟩
  · exact (digitsOf_all _).solid

theorem integer?_decimal (n : Int) : integer? (decimal n) = some n := by
  unfold decimal
  split
  next negative =>
    rw [integer?, natural?_digits (digitsOf_all _) (digitsOf_ne_nil _), numeral_digits]
    show some (-(n.natAbs : Int)) = some n
    rw [Option.some.injEq]
    omega
  next =>
    rw [integer?_digitsOf, Option.some.injEq]
    omega

end Padded

section Scan

variable {digits rest : List Char}

theorem scanNumber_all (all : AllDigits digits) (rest : List Char) :
    scanNumber digits.length digits.length (digits ++ rest) = some (numeral digits, rest) := by
  have leading : leadingDigits digits.length (digits ++ rest) = digits := by
    have run := takeWhile_digits all noDigitAhead_nil
    rw [List.append_nil] at run
    rw [leadingDigits, List.take_left, run]
  simp only [scanNumber, leading, if_neg (Nat.lt_irrefl _), List.drop_left]

theorem scanNumber_padded {width n : Nat} (positive : 0 < width) (fits : n < tenTo width)
    (rest : List Char) : scanNumber width width (padded width n ++ rest) = some (n, rest) := by
  have read := scanNumber_all (padded_all width n) rest
  rwa [length_padded positive fits, numeral_padded] at read

theorem scanNumber_none {least : Nat} (positive : 0 < least) (most : Nat)
    (ahead : NoDigitAhead rest) : scanNumber least most rest = none := by
  have nothing : leadingDigits most rest = [] := by
    unfold leadingDigits
    cases rest with
    | nil => simp
    | cons c rest =>
      cases most with
      | zero => rfl
      | succ most =>
        have stop : ¬c.isDigit = true := by simp [ahead c rfl]
        rw [List.take_succ_cons, List.takeWhile_cons_of_neg stop]
  simp only [scanNumber, nothing, List.length_nil, if_pos positive]

/-- A number ends where its digits end, if there may be as many. -/
theorem scanNumber_run {least most : Nat} (all : AllDigits digits) (ahead : NoDigitAhead rest)
    (enough : least ≤ digits.length) (few : digits.length ≤ most) :
    scanNumber least most (digits ++ rest) = some (numeral digits, rest) := by
  have cut : NoDigitAhead (rest.take (most - digits.length)) := by
    intro c first
    rw [List.head?_take] at first
    split at first
    · cases first
    · exact ahead c first
  have leading : leadingDigits most (digits ++ rest) = digits := by
    rw [leadingDigits, List.take_append, List.take_of_length_le few, takeWhile_digits all cut]
  simp only [scanNumber, leading, if_neg (Nat.not_lt.mpr enough), List.drop_left]

theorem length_leadingDigits (most : Nat) (text : List Char) :
    (leadingDigits most text).length ≤ (text.takeWhile Char.isDigit).length := by
  have whole := congrArg (List.takeWhile Char.isDigit) (List.take_append_drop most text)
  rw [List.takeWhile_append] at whole
  rw [leadingDigits, ← whole]
  split
  next all => rw [all, List.length_append]; exact Nat.le_add_right _ _
  next => exact Nat.le_refl _

theorem scanNumber_behind {least most : Nat} {text : List Char} :
    ∀ found ∈ scanNumber least most text,
      ∃ count ≤ (text.takeWhile Char.isDigit).length, found.2 = text.drop count := by
  intro found scanned
  simp only [scanNumber] at scanned
  split at scanned
  · cases scanned
  · cases scanned
    exact ⟨_, length_leadingDigits most text, rfl⟩

/-- Where there are more digits than a number may have, the text goes on with a digit. -/
theorem scanNumber_ahead {least most : Nat} (all : AllDigits digits) (more : most < digits.length)
    (rest : List Char) : ∀ found ∈ scanNumber least most (digits ++ rest), DigitAhead found.2 := by
  have run := takeWhile_digits (all.take most) noDigitAhead_nil
  have short : most ≤ digits.length := Nat.le_of_lt more
  rw [List.append_nil] at run
  have leading : leadingDigits most (digits ++ rest) = digits.take most := by
    rw [leadingDigits, List.take_append_of_le_length short, run]
  have left : digits.drop most ≠ [] := by
    intro nothing
    have length := congrArg List.length nothing
    rw [List.length_drop, List.length_nil] at length
    omega
  obtain ⟨next, behind, split⟩ := List.exists_cons_of_ne_nil left
  intro found scanned
  simp only [scanNumber, leading, List.length_take, Nat.min_eq_left short,
    List.drop_append_of_le_length short, split] at scanned
  split at scanned
  · cases scanned
  · cases scanned
    intro c first
    rw [← Option.some.inj first]
    exact all.drop most next (split ▸ List.mem_cons_self)

theorem skip?_none {c : Char} (other : ∀ d ∈ rest.head?, c ≠ d) : skip? c rest = none := by
  cases rest with
  | nil => rfl
  | cons d rest => exact if_neg (other d rfl)

theorem toLower_of_isDigit {c : Char} (digit : c.isDigit = true) : c.toLower = c := by
  obtain ⟨_, high⟩ := toNat_of_isDigit digit
  refine dif_neg fun upper => ?_
  have low : 65 ≤ c.toNat := upper.1
  omega

theorem scanWord_none {words : List String} {text : List Char} {isFirst : Char → Bool}
    (starts : ∀ word ∈ words, (word.toList.map Char.toLower).head?.any isFirst = true)
    (other : ∀ c ∈ text.head?, isFirst c.toLower = false) : scanWord words text = none := by
  have unlike : words.findIdx? (fun word =>
      word.toList.map Char.toLower == (text.take word.length).map Char.toLower) = none := by
    refine List.findIdx?_eq_none_iff.mpr fun word member => ?_
    obtain ⟨letter, first, starting⟩ := (Option.any_eq_true _ _).mp (starts word member)
    refine Bool.eq_false_iff.mpr fun alike => ?_
    have same := eq_of_beq alike
    rw [same, List.head?_map, List.head?_take] at first
    split at first
    · cases first
    · obtain ⟨c, front, rfl⟩ := Option.map_eq_some_iff.mp first
      rw [other c front] at starting
      cases starting
  simp only [scanWord, unlike]

theorem skip?_self (c : Char) (rest : List Char) : skip? c (c :: rest) = some rest := if_pos rfl

end Scan

end SchemaCheck.Text
