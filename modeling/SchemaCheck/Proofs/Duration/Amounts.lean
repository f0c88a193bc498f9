import SchemaCheck.Duration
import SchemaCheck.Proofs.Text.Scan

/-!
Amounts of time, read one after the other. An amount is digits, blanks and the name of a unit. It
adds as much as it says, or fails where that makes the duration too long (`readAmounts_known`): each
of the numbers on the way is looked at, and none is too large without the sum being so as well
(`addAmount?_word`).
-/

namespace SchemaCheck.Duration

open Text

section Words

variable {m n : Nat}

theorem word?_of_lt (small : n < wordBound) : word? n = some n := if_pos small

theorem word?_of_le (large : wordBound ≤ n) : word? n = none := if_neg (Nat.not_lt.mpr large)

/-- It does not matter where a number is noticed to be too large. -/
theorem word?_bind {α : Type} {next : Nat → Option α} (large : wordBound ≤ n → next n = none) :
    (word? n).bind next = next n := by
  by_cases small : n < wordBound
  · rw [word?_of_lt small, Option.bind_some]
  · have reached := Nat.not_lt.mp small
    rw [word?_of_le reached, large reached, Option.bind_none]

theorem ofNanoseconds?_of_le (large : wordBound * second ≤ n) : ofNanoseconds? n = none :=
  dif_neg (Nat.not_lt.mpr large)

theorem ofNanoseconds?_self (d : Duration) : ofNanoseconds? d.nanoseconds = some d :=
  dif_pos d.bounded

theorem ofNanoseconds?_bind (m n : Nat) :
    (ofNanoseconds? m).bind (fun d => ofNanoseconds? (d.nanoseconds + n)) =
      ofNanoseconds? (m + n) := by
  by_cases small : m < wordBound * second
  · have read : ofNanoseconds? m = some ⟨m, small⟩ := dif_pos small
    rw [read, Option.bind_some]
  · have large := Nat.not_lt.mp small
    rw [ofNanoseconds?_of_le large, ofNanoseconds?_of_le (Nat.le_add_right_of_le large),
      Option.bind_none]

theorem ofSeconds?_of_lt (small : n < wordBound) :
    ∃ d, ofSeconds? n = some d ∧ d.seconds = n ∧ d.subseconds = 0 := by
  have positive : 0 < second := by decide
  have fits : n * second < wordBound * second := Nat.mul_lt_mul_of_pos_right small positive
  refine ⟨⟨n * second, fits⟩, dif_pos fits, ?_, ?_⟩
  · exact Nat.mul_div_cancel n positive
  · exact Nat.mul_mod_left n second

theorem ofSeconds?_of_le (large : wordBound ≤ n) : ofSeconds? n = none :=
  ofNanoseconds?_of_le (Nat.mul_le_mul_right second large)

end Words

section Adding

def Unit.nanoseconds (unit : Unit) : Nat :=
  if unit.length.2 then unit.length.1 else unit.length.1 * Duration.second

/-- Where a unit counts nanoseconds, some of it come to less than a second. -/
def Unit.Few (unit : Unit) (n : Nat) : Prop :=
  unit.length.2 = true → n * unit.length.1 < Duration.second

variable {d : Duration} {n : Nat} {unit : Unit}

theorem Unit.few_of_whole (whole : unit.length.2 = false) (n : Nat) : unit.Few n := by
  intro counted
  rw [whole] at counted
  cases counted

theorem addAmount?_eq (few : unit.Few n) :
    d.addAmount? n none unit = ofNanoseconds? (d.nanoseconds + n * unit.nanoseconds) := by
  have split : d.seconds * second + d.subseconds = d.nanoseconds := Nat.div_add_mod' _ _
  have part : d.subseconds < second := Nat.mod_lt _ (by decide)
  have room : second + second < wordBound := by decide
  have whole : d.addAmount? n none unit = d.addScaled? n unit.length 1 := by
    unfold addAmount?
    cases d.addScaled? n unit.length 1 <;> rfl
  rw [whole]
  unfold addScaled? Unit.nanoseconds
  simp only [Option.bind_eq_bind, Nat.div_one]
  by_cases counted : unit.length.2 = true
  · have less := few counted
    rw [word?_of_lt (by omega), Option.bind_some, if_pos counted, if_pos counted,
      word?_of_lt (by omega), Option.bind_some, ← Nat.add_assoc, split]
  · have other := Bool.eq_false_iff.mpr counted
    simp only [other, Bool.false_eq_true, if_false, ← Nat.mul_assoc]
    apply word?_bind
    intro large
    apply ofNanoseconds?_of_le
    have scaled := Nat.mul_le_mul_right second large
    omega

theorem Unit.mem_names {name : String} (known : ofName? name = some unit) : name ∈ unit.names := by
  have found := List.find?_some (p := fun unit : Unit => unit.names.contains name) known
  exact List.contains_iff_mem.mp found

theorem Unit.length_pos (unit : Unit) : 0 < unit.length.1 := by
  cases unit <;> decide

theorem addAmount?_word (few : unit.Few n) :
    (word? n).bind (d.addAmount? · none unit) =
      ofNanoseconds? (d.nanoseconds + n * unit.nanoseconds) := by
  rw [← addAmount?_eq few]
  apply word?_bind
  intro large
  have longer : n ≤ n * unit.length.1 := Nat.le_mul_of_pos_right n unit.length_pos
  rw [addAmount?_eq few, Unit.nanoseconds]
  apply ofNanoseconds?_of_le
  by_cases counted : unit.length.2 = true
  · have less := few counted
    have room : second < wordBound := by decide
    omega
  · have scaled := Nat.mul_le_mul_right second (Nat.le_trans large longer)
    rw [if_neg counted, ← Nat.mul_assoc]
    omega

end Adding

section Reading

variable {d : Duration} {needed : Bool} {n : Nat} {c : Char} {reading : Reading}
  {digits blanks letters rest : List Char}

def NoLetterAhead (rest : List Char) : Prop := ∀ c ∈ rest.head?, isUnitLetter c = false

theorem noLetterAhead_nil : NoLetterAhead [] := noneAhead_nil

theorem noLetterAhead_cons (other : isUnitLetter c = false) (rest : List Char) :
    NoLetterAhead (c :: rest) := noneAhead_cons other rest

theorem toNat_of_isUnitLetter (letter : isUnitLetter c = true) :
    65 ≤ c.toNat ∧ c.toNat ≤ 122 ∨ c.toNat = 181 := by
  rcases Bool.or_eq_true_iff.mp letter with alpha | micro
  · exact .inl (toNat_of_isAlpha alpha)
  · rw [eq_of_beq micro]
    exact .inr (by decide)

theorem isDigit_of_isUnitLetter (letter : isUnitLetter c = true) : c.isDigit = false := by
  rw [Bool.eq_false_iff]
  intro digit
  have range := toNat_of_isUnitLetter letter
  have other := toNat_of_isDigit digit
  omega

theorem isUnitLetter_of_isDigit (digit : c.isDigit = true) : isUnitLetter c = false := by
  rw [Bool.eq_false_iff]
  intro letter
  rw [isDigit_of_isUnitLetter letter] at digit
  cases digit

theorem isBlank_of_isUnitLetter (letter : isUnitLetter c = true) : isBlank c = false := by
  have range := toNat_of_isUnitLetter letter
  simp [isBlank]
  omega

theorem step?_digit (digit : c.isDigit = true) :
    (Reading.count n).step? d c =
      (word? (n * 10 + digitValue c)).map fun n => (d, .count n) := if_pos digit

theorem step?_blank (blank : isBlank c = true) :
    (Reading.count n).step? d c = some (d, .count n) := by
  rw [Reading.step?, isDigit_of_isBlank blank, if_neg Bool.false_ne_true, if_pos blank]

theorem step?_letter (letter : isUnitLetter c = true) :
    (Reading.count n).step? d c = some (d, .unit n none [c]) := by
  rw [Reading.step?, isDigit_of_isUnitLetter letter, if_neg Bool.false_ne_true,
    isBlank_of_isUnitLetter letter, if_neg Bool.false_ne_true, if_pos letter]

theorem readAmounts_step {next : Reading} (step : reading.step? d c = some (d, next)) :
    readAmounts d reading (c :: rest) = readAmounts d next rest := by
  rw [readAmounts, step]
  rfl

theorem readAmounts_digits (all : AllDigits digits) (small : n < wordBound) :
    readAmounts d (.count n) (digits ++ rest) =
      (word? (numeralFrom n digits)).bind fun n => readAmounts d (.count n) rest := by
  induction digits generalizing n with
  | nil =>
    rw [List.nil_append, numeralFrom, Nat.ofDigitChars_nil, word?_of_lt small, Option.bind_some]
  | cons c digits ih =>
    obtain ⟨digit, others⟩ := List.forall_mem_cons.mp all
    have more : numeralFrom n (c :: digits) = numeralFrom (n * 10 + digitValue c) digits :=
      numeralFrom_cons n c digits
    rw [List.cons_append, readAmounts, step?_digit digit, more]
    by_cases fits : n * 10 + digitValue c < wordBound
    · rw [word?_of_lt fits]
      exact ih others fits
    · -- Further digits do not make the count smaller.
      have reached := Nat.not_lt.mp fits
      rw [word?_of_le reached, word?_of_le (Nat.le_trans reached (le_numeralFrom _ digits))]
      rfl

theorem readAmounts_count (all : AllDigits digits) (filled : digits ≠ []) :
    readAmounts d (.start needed) (digits ++ rest) =
      (word? (numeral digits)).bind fun n => readAmounts d (.count n) rest := by
  obtain ⟨c, digits, rfl⟩ := List.exists_cons_of_ne_nil filled
  obtain ⟨digit, others⟩ := List.forall_mem_cons.mp all
  have small : digitValue c < wordBound := by
    obtain ⟨low, high⟩ := toNat_of_isDigit digit
    have room : 57 < wordBound := by decide
    unfold digitValue
    omega
  have step : (Reading.start needed).step? d c = some (d, .count (digitValue c)) := if_pos digit
  rw [List.cons_append, readAmounts_step step, readAmounts_digits others small, numeral_eq,
    numeralFrom_cons, Nat.zero_mul, Nat.zero_add]
  rfl

theorem readAmounts_blanks (blank : ∀ c ∈ blanks, isBlank c = true) :
    readAmounts d (.count n) (blanks ++ rest) = readAmounts d (.count n) rest := by
  induction blanks with
  | nil => rfl
  | cons c blanks ih =>
    obtain ⟨first, others⟩ := List.forall_mem_cons.mp blank
    rw [List.cons_append, readAmounts_step (step?_blank first), ih others]

/-- A unit ends before the first character that is no letter, and the next amount may start there. -/
theorem readAmounts_letters {front : List Char} (all : ∀ c ∈ letters, isUnitLetter c = true)
    (ahead : NoLetterAhead rest) :
    readAmounts d (.unit n none front) (letters ++ rest) =
      (d.finish? n none (letters.reverse ++ front)).bind fun d =>
        readAmounts d (.start false) rest := by
  induction letters generalizing front with
  | nil =>
    rw [List.nil_append, List.reverse_nil, List.nil_append]
    cases rest with
    | nil => exact (Option.bind_fun_some _).symm
    | cons c rest =>
      have step : (Reading.unit n none front).step? d c =
          (d.finish? n none front).bind (·.begin? false c) := by
        rw [Reading.step?, ahead c rfl, if_neg Bool.false_ne_true]
      rw [readAmounts, step, Option.bind_assoc]
      rfl
  | cons c letters ih =>
    obtain ⟨letter, others⟩ := List.forall_mem_cons.mp all
    have step : (Reading.unit n none front).step? d c = some (d, .unit n none (c :: front)) :=
      if_pos letter
    rw [List.cons_append, readAmounts_step step, ih others, List.reverse_cons,
      List.append_assoc, List.singleton_append]

end Reading

section Amount

/-- A number as it is written, possibly with zeros in front. -/
structure Numeral where
  digits : List Char
  filled : digits ≠ []
  all : AllDigits digits

theorem Numeral.noLetterAhead (number : Numeral) (rest : List Char) :
    NoLetterAhead (number.digits ++ rest) := by
  obtain ⟨c, digits, spelled⟩ := List.exists_cons_of_ne_nil number.filled
  have digit : c.isDigit = true := number.all c (spelled ▸ List.mem_cons_self)
  rw [spelled]
  exact noLetterAhead_cons (isUnitLetter_of_isDigit digit) _

def Numeral.value (number : Numeral) : Nat := Nat.ofDigitChars 10 number.digits 0

/-- An amount as it is written, whether its unit is known or not. -/
structure Amount where
  count : Numeral
  blanks : List Char
  letters : List Char
  blank : ∀ c ∈ blanks, isBlank c = true
  filled : letters ≠ []
  letter : ∀ c ∈ letters, isUnitLetter c = true

namespace Amount

def text (amount : Amount) : List Char :=
  amount.count.digits ++ (amount.blanks ++ amount.letters)

def dense (count : Numeral) (letters : List Char) (filled : letters ≠ [])
    (letter : ∀ c ∈ letters, isUnitLetter c = true) : Amount where
  count := count
  blanks := []
  letters := letters
  blank := List.forall_mem_nil _
  filled := filled
  letter := letter

def unit? (amount : Amount) : Option Unit := Unit.ofName? (String.ofList amount.letters)

end Amount

variable {d : Duration} {needed : Bool} {amount : Amount} {unit : Unit} {rest : List Char}

theorem readAmounts_amount (amount : Amount) (ahead : NoLetterAhead rest) :
    readAmounts d (.start needed) (amount.text ++ rest) =
      (word? amount.count.value).bind fun n =>
        (d.finish? n none amount.letters.reverse).bind fun d =>
          readAmounts d (.start false) rest := by
  obtain ⟨c, letters, spelled⟩ := List.exists_cons_of_ne_nil amount.filled
  obtain ⟨first, others⟩ := List.forall_mem_cons.mp (spelled ▸ amount.letter)
  have unit : ∀ n, readAmounts d (.count n) (amount.letters ++ rest) =
      (d.finish? n none amount.letters.reverse).bind fun d =>
        readAmounts d (.start false) rest := by
    intro n
    rw [spelled, List.cons_append, readAmounts_step (step?_letter first),
      readAmounts_letters others ahead, List.reverse_cons]
  simp only [Amount.text, List.append_assoc, readAmounts_count amount.count.all amount.count.filled,
    readAmounts_blanks amount.blank, unit, numeral_eq]
  rfl

theorem readAmounts_unknown (unknown : amount.unit? = none) (ahead : NoLetterAhead rest) :
    readAmounts d (.start needed) (amount.text ++ rest) = none := by
  have stuck : ∀ n, d.finish? n none amount.letters.reverse = none := by
    intro n
    rw [finish?, List.reverse_reverse, ← Amount.unit?, unknown]
    rfl
  rw [readAmounts_amount amount ahead]
  simp only [stuck, Option.bind_none, Option.bind_fun_none]

theorem readAmounts_known (known : amount.unit? = some unit) (few : unit.Few amount.count.value)
    (ahead : NoLetterAhead rest) :
    readAmounts d (.start needed) (amount.text ++ rest) =
      (ofNanoseconds? (d.nanoseconds + amount.count.value * unit.nanoseconds)).bind fun d =>
        readAmounts d (.start false) rest := by
  have finish : ∀ n, d.finish? n none amount.letters.reverse = d.addAmount? n none unit := by
    intro n
    rw [finish?, List.reverse_reverse, ← Amount.unit?, known]
    rfl
  rw [readAmounts_amount amount ahead, ← addAmount?_word few, Option.bind_assoc]
  simp only [finish]

theorem readAmounts_blank {c : Char} (blank : isBlank c = true) :
    readAmounts d (.start needed) (c :: rest) = readAmounts d (.start needed) rest := by
  have step : (Reading.start needed).step? d c = some (d, .start needed) := by
    rw [Reading.step?, begin?, isDigit_of_isBlank blank, if_neg Bool.false_ne_true, if_pos blank]
  exact readAmounts_step step

end Amount

end SchemaCheck.Duration
