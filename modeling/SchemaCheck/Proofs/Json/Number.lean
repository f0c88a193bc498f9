import SchemaCheck.Json.Printer
import SchemaCheck.Json.Reader
import SchemaCheck.Proofs.Number.Shortest
import SchemaCheck.Proofs.Text.Digits

/-!
Numbers in JSON text. Behind a number stands a comma, a bracket, a brace or nothing; so the reader
takes all of its text and nothing else, and it makes out the digits and the exponent that were
written (`readNumber_magnitude`). An integer is read as it was. A real number is, where the reader
rounds the decimal that is written for it to the nearest number (`Binary64.Finite.ReadExactly`).
-/

namespace SchemaCheck.Json

open Text

def delimiters : List Char := [',', ']', '\x7d', ' ', '\n', '\t', '\r']

/-- What stands behind a value inside an array or object, or at the end of a text. -/
def Delimited (rest : List Char) : Prop := ∀ c ∈ rest.head?, c ∈ delimiters

theorem delimited_nil : Delimited [] := fun _ member => (nomatch member)

theorem delimited_cons {c : Char} (mark : c ∈ delimiters) (rest : List Char) :
    Delimited (c :: rest) := by
  intro d first
  rwa [← Option.some.inj first]

section Readers

variable (negative : Bool) {rest digits : List Char}

theorem Delimited.noDigit (delimited : Delimited rest) : NoDigitAhead rest := by
  have marks : ∀ c ∈ delimiters, c.isDigit = false := by simp [delimiters]
  exact fun c first => marks c (delimited c first)

theorem leading_ofDigits (start : Nat) (digits : List Char)
    (fits : numeralFrom start digits < wordBound) :
    Leading.ofDigits start digits = ⟨numeralFrom start digits, digits.length, 0⟩ := by
  unfold Leading.ofDigits
  suffices general : ∀ used, digits.foldl (fun lead c =>
      let next := lead.value * 10 + (c.toNat - '0'.toNat)
      if lead.dropped = 0 ∧ next < wordBound then
        { lead with value := next, used := lead.used + 1 }
      else { lead with dropped := lead.dropped + 1 }) (Leading.mk start used 0) =
        ⟨numeralFrom start digits, used + digits.length, 0⟩ by
    simpa using general 0
  induction digits generalizing start with
  | nil => exact fun used => rfl
  | cons c digits ih =>
    intro used
    rw [numeralFrom_cons] at fits ⊢
    have next : start * 10 + (c.toNat - '0'.toNat) < wordBound :=
      Nat.lt_of_le_of_lt (le_numeralFrom _ digits) fits
    rw [List.foldl_cons]
    simp only [true_and, if_pos next, ih _ fits, List.length_cons]
    congr 1
    omega

theorem exponentOf_digits (start : Nat) (digits : List Char)
    (fits : numeralFrom start digits ≤ exponentBound) :
    exponentOf start digits = .inl (numeralFrom start digits) := by
  induction digits generalizing start with
  | nil => rfl
  | cons c digits ih =>
    rw [numeralFrom_cons] at fits ⊢
    have next : start * 10 + (c.toNat - '0'.toNat) ≤ exponentBound :=
      Nat.le_trans (le_numeralFrom _ digits) fits
    rw [exponentOf]
    simp only [if_pos next, ih _ fits]

/-- Stated of the function: at arguments, comparing the two sides would evaluate the rounding. -/
theorem readReal_def : readReal = fun negative value exponent rest =>
    match realOfParts? negative value exponent with
    | some x => .ok (.real x, rest)
    | none => stopAt .numberTooLarge rest := by
  delta readReal
  rfl

theorem readReal_of_parts {value : Nat} {exponent : Int} {x : Binary64.Finite}
    (parts : realOfParts? negative value exponent = some x) (rest : List Char) :
    readReal negative value exponent rest = .ok (.real x, rest) := by
  rw [readReal_def]
  dsimp only
  rw [parts]

theorem readTail_whole (delimited : Delimited rest) (value used : Nat) :
    readTail negative ⟨value, used, 0⟩ rest = .ok (wholeNumber negative value, rest) := by
  cases rest with
  | nil => rfl
  | cons c rest =>
    have marks : ∀ c ∈ delimiters, c ≠ '.' ∧ c ≠ 'e' ∧ c ≠ 'E' := by simp [delimiters]
    obtain ⟨noPoint, noExponent⟩ := marks c (delimited c rfl)
    rw [readTail]
    · rw [if_neg (not_or.mpr noExponent), if_pos rfl]
    · simpa using noPoint

theorem readTail_exponent (lead : Leading) (text : List Char) :
    readTail negative lead ('e' :: text) = readExponent negative lead.value lead.dropped text := by
  simp [readTail]

/-- The digits in front of a point or exponent: a single zero, or no zero first. -/
theorem readNumber_digits (all : AllDigits digits) (ahead : NoDigitAhead rest)
    (leads : digits = ['0'] ∨ ∃ c more, digits = c :: more ∧ c ≠ '0')
    (fits : numeralFrom 0 digits < wordBound) :
    readNumber negative (digits ++ rest) =
      readTail negative ⟨numeralFrom 0 digits, digits.length, 0⟩ rest := by
  rcases leads with rfl | ⟨c, more, rfl, notZero⟩
  · have zero : numeralFrom 0 ['0'] = 0 := rfl
    rw [zero, List.length_singleton]
    cases rest with
    | nil => simp only [List.append_nil, readNumber]
    | cons d rest =>
      have other : d.isDigit = false := ahead d rfl
      simp only [List.cons_append, List.nil_append, readNumber, other, Bool.false_eq_true, if_false]
  · have digit : c.isDigit = true := all c List.mem_cons_self
    have taken := takeWhile_digits all ahead
    have dropped := dropWhile_digits all ahead
    rw [List.cons_append] at taken dropped ⊢
    rw [readNumber]
    · simp only [digit, if_true, taken, dropped, leading_ofDigits 0 _ fits]
    · simpa using notZero

theorem readFraction_digits (filled : digits ≠ []) (all : AllDigits digits)
    (delimited : Delimited rest) (value : Nat) (start : Int)
    (fits : numeralFrom value digits < wordBound) :
    readFraction negative value start (digits ++ rest) =
      readReal negative (numeralFrom value digits) (start - digits.length) rest := by
  have taken := takeWhile_digits all delimited.noDigit
  have dropped := dropWhile_digits all delimited.noDigit
  obtain ⟨c, more, rfl⟩ := List.exists_cons_of_ne_nil filled
  have digit : c.isDigit = true := all c List.mem_cons_self
  unfold readFraction
  rw [taken, leading_ofDigits value _ fits]
  simp only [List.cons_append] at dropped ⊢
  simp only [digit, Bool.not_true, Bool.false_eq_true, if_false, dropped]
  cases rest with
  | nil => rfl
  | cons d rest =>
    have noExponent : ¬(d = 'e' ∨ d = 'E') := by
      have marks : ∀ c ∈ delimiters, ¬(c = 'e' ∨ c = 'E') := by simp [delimiters]
      exact marks d (delimited d rfl)
    simp only [if_neg noExponent]

theorem readFraction_exponent (filled : digits ≠ []) (all : AllDigits digits) (value : Nat)
    (start : Int) (fits : numeralFrom value digits < wordBound) :
    readFraction negative value start (digits ++ 'e' :: rest) =
      readExponent negative (numeralFrom value digits) (start - digits.length) rest := by
  have taken := takeWhile_digits all (noDigitAhead_cons 'e' rfl rest)
  have dropped := dropWhile_digits all (noDigitAhead_cons 'e' rfl rest)
  obtain ⟨c, more, rfl⟩ := List.exists_cons_of_ne_nil filled
  have digit : c.isDigit = true := all c List.mem_cons_self
  unfold readFraction
  rw [taken, leading_ofDigits value _ fits]
  simp only [List.cons_append] at dropped ⊢
  simp only [digit, Bool.not_true, Bool.false_eq_true, if_false, dropped, true_or, if_true]

theorem readExponent_decimal (delimited : Delimited rest) (value : Nat) (start exponent : Int)
    (fits : exponent.natAbs ≤ exponentBound) :
    readExponent negative value start
        ((if Decimal.Layout.json.plusSign && 0 ≤ exponent then ['+'] else []) ++
          decimal exponent ++ rest) =
      readReal negative value (start + exponent) rest := by
  have taken := takeWhile_digits (digitsOf_all exponent.natAbs) delimited.noDigit
  have dropped := dropWhile_digits (digitsOf_all exponent.natAbs) delimited.noDigit
  have meant := exponentOf_digits 0 (digitsOf exponent.natAbs)
    (by rw [numeral_digitsOf]; exact fits)
  rw [numeral_digitsOf] at meant
  obtain ⟨c, more, spelled⟩ := List.exists_cons_of_ne_nil (digitsOf_ne_nil exponent.natAbs)
  have digit : c.isDigit = true := digitsOf_all exponent.natAbs c (spelled ▸ List.mem_cons_self)
  unfold decimal
  rw [spelled] at taken dropped meant ⊢
  rw [List.cons_append] at taken dropped
  by_cases down : exponent < 0
  · have notUp : ¬0 ≤ exponent := by omega
    simp only [if_pos down, notUp, decide_false, Bool.and_false, Bool.false_eq_true, if_false,
      List.nil_append, List.cons_append, readExponent, digit, Bool.not_true, taken, dropped, meant,
      if_true]
    congr 1
    omega
  · have up : 0 ≤ exponent := by omega
    simp only [if_neg down, up, decide_true, Bool.and_true, Decimal.Layout.json, if_true,
      List.nil_append, List.cons_append, readExponent, digit, Bool.not_true, taken, dropped, meant,
      Bool.false_eq_true, if_false]
    congr 1
    omega

end Readers

section Layouts

variable {negative : Bool} {rest : List Char} {n : Nat} {exponent lead : Int}

theorem digitsOf_leads (n : Nat) :
    digitsOf n = ['0'] ∨ ∃ c more, digitsOf n = c :: more ∧ c ≠ '0' := by
  rcases Nat.eq_zero_or_pos n with rfl | positive
  · exact .inl rfl
  · exact .inr (digitsOf_head n (Nat.ne_of_gt positive))

theorem readNumber_below (delimited : Delimited rest) (fits : n < wordBound)
    (placed : lead = exponent + (digitsOf n).length - 1) (below : lead < 0) :
    readNumber negative (Decimal.Layout.json.positional (digitsOf n) lead ++ rest) =
      readReal negative n exponent rest := by
  have zeros : AllDigits (List.replicate (-lead - 1).toNat '0' ++ digitsOf n) :=
    (allDigits_zeros _).append (digitsOf_all n)
  have value : numeralFrom 0 (List.replicate (-lead - 1).toNat '0' ++ digitsOf n) = n := by
    rw [numeralFrom, Nat.ofDigitChars_append, Nat.ofDigitChars_replicate_zero, Nat.mul_zero]
    exact numeral_digitsOf n
  have whole := readNumber_digits negative allDigits_zero
    (noDigitAhead_cons '.' rfl (List.replicate (-lead - 1).toNat '0' ++ digitsOf n ++ rest))
    (.inl rfl) (by decide)
  unfold Decimal.Layout.positional
  rw [if_pos below]
  refine whole.trans ?_
  rw [show numeralFrom 0 ['0'] = 0 from rfl, readTail,
    readFraction_digits negative (by simp [digitsOf_ne_nil]) zeros delimited 0 _
      (value.symm ▸ fits), value, List.length_append, List.length_replicate]
  congr 1
  dsimp only
  omega

theorem take_leads (filled : n ≠ 0) {count : Nat} (positive : 0 < count) :
    ∃ c more, (digitsOf n).take count = c :: more ∧ c ≠ '0' := by
  obtain ⟨c, more, spelled, notZero⟩ := digitsOf_head n filled
  obtain ⟨less, rfl⟩ := Nat.exists_eq_succ_of_ne_zero (Nat.ne_of_gt positive)
  exact ⟨c, more.take less, by rw [spelled]; rfl, notZero⟩

theorem numeralFrom_split (n count : Nat) :
    numeralFrom (numeralFrom 0 ((digitsOf n).take count)) ((digitsOf n).drop count) = n := by
  rw [numeralFrom, ← Nat.ofDigitChars_append, List.take_append_drop]
  exact numeral_digitsOf n

theorem readNumber_mixed (delimited : Delimited rest) (filled : n ≠ 0) (fits : n < wordBound)
    (placed : lead = exponent + (digitsOf n).length - 1) (fraction : exponent < 0)
    (whole : 0 ≤ lead) :
    readNumber negative (Decimal.Layout.json.positional (digitsOf n) lead ++ rest) =
      readReal negative n exponent rest := by
  have count : lead.toNat + 1 < (digitsOf n).length := by omega
  have behind : (digitsOf n).drop (lead.toNat + 1) ≠ [] := by
    rw [ne_eq, List.drop_eq_nil_iff]
    omega
  have value := numeralFrom_split n (lead.toNat + 1)
  have small : numeralFrom 0 ((digitsOf n).take (lead.toNat + 1)) < wordBound :=
    Nat.lt_of_le_of_lt (le_numeralFrom _ _) (value.symm ▸ fits)
  unfold Decimal.Layout.positional
  dsimp only
  rw [if_neg (by omega), Nat.sub_eq_zero_of_le (Nat.le_of_lt count), List.replicate_zero,
    List.append_nil, if_pos (by simpa [List.isEmpty_iff] using behind), List.append_assoc,
    List.cons_append, readNumber_digits negative ((digitsOf_all n).take _)
      (noDigitAhead_cons '.' rfl _) (.inr (take_leads filled (Nat.succ_pos _))) small,
    readTail, readFraction_digits negative behind ((digitsOf_all n).drop _) delimited _ _
      (value.symm ▸ fits), value, List.length_drop]
  congr 1
  dsimp only
  omega

/-- A number without a fraction; its text ends in a zero behind the point. -/
theorem readNumber_integral (delimited : Delimited rest)
    (placed : lead = exponent + (digitsOf n).length - 1) (whole : 0 ≤ exponent)
    (zero : n = 0 → exponent = 0) (fits : n * tenTo (exponent.toNat + 1) < wordBound) :
    readNumber negative (Decimal.Layout.json.positional (digitsOf n) lead ++ rest) =
      readReal negative (n * tenTo (exponent.toNat + 1)) (-1) rest := by
  have filled := List.length_pos_iff.mpr (digitsOf_ne_nil n)
  have padding : lead.toNat + 1 - (digitsOf n).length = exponent.toNat := by omega
  have count : lead.toNat + 1 =
      (digitsOf n ++ List.replicate exponent.toNat '0').length := by
    rw [List.length_append, List.length_replicate]
    omega
  have value : numeralFrom 0 (digitsOf n ++ List.replicate exponent.toNat '0') =
      n * tenTo exponent.toNat := by
    rw [numeralFrom, Nat.ofDigitChars_append, Nat.ofDigitChars_replicate_zero, Nat.mul_comm]
    exact congrArg (· * tenTo exponent.toNat) (numeral_digitsOf n)
  have last : numeralFrom (n * tenTo exponent.toNat) ['0'] = n * tenTo (exponent.toNat + 1) := by
    rw [numeralFrom_cons, tenTo_succ, Nat.mul_left_comm, Nat.mul_comm 10]
    rfl
  have leads : digitsOf n ++ List.replicate exponent.toNat '0' = ['0'] ∨
      ∃ c more, digitsOf n ++ List.replicate exponent.toNat '0' = c :: more ∧ c ≠ '0' := by
    rcases Nat.eq_zero_or_pos n with rfl | positive
    · rw [zero rfl]
      exact .inl rfl
    · obtain ⟨c, more, spelled, notZero⟩ := digitsOf_head n (Nat.ne_of_gt positive)
      exact .inr ⟨c, more ++ List.replicate exponent.toNat '0', by rw [spelled]; rfl, notZero⟩
  have small : numeralFrom 0 (digitsOf n ++ List.replicate exponent.toNat '0') < wordBound :=
    Nat.lt_of_le_of_lt (value ▸ last ▸ le_numeralFrom _ ['0']) fits
  have fraction := readFraction_digits negative (List.cons_ne_nil _ _) allDigits_zero delimited
    (n * tenTo exponent.toNat) 0 (last.symm ▸ fits)
  rw [last] at fraction
  unfold Decimal.Layout.positional
  dsimp only
  rw [if_neg (by omega), padding, count, List.take_length, List.drop_length]
  simp only [List.isEmpty_nil, Bool.not_true, Bool.false_eq_true, if_false,
    show Decimal.Layout.json.pointZero = true from rfl, if_true]
  rw [List.append_assoc (digitsOf n ++ _) ['.', '0'], List.cons_append,
    readNumber_digits negative ((digitsOf_all n).append (allDigits_zeros _))
      (noDigitAhead_cons '.' rfl _) leads small, value]
  exact fraction

theorem readNumber_scientific (delimited : Delimited rest) (filled : n ≠ 0) (fits : n < wordBound)
    (placed : lead = exponent + (digitsOf n).length - 1)
    (bounded : lead.natAbs ≤ exponentBound) :
    readNumber negative (Decimal.Layout.json.scientific (digitsOf n) lead ++ rest) =
      readReal negative n exponent rest := by
  obtain ⟨c, more, spelled, notZero⟩ := digitsOf_head n filled
  have all : AllDigits [c] := fun d member => by
    rw [List.mem_singleton.mp member]
    exact digitsOf_all n c (spelled ▸ List.mem_cons_self)
  have value : numeralFrom (numeralFrom 0 [c]) more = n := by
    have split := numeralFrom_split n 1
    rwa [spelled] at split
  have first : numeralFrom 0 [c] < wordBound :=
    Nat.lt_of_le_of_lt (le_numeralFrom _ more) (value.symm ▸ fits)
  have others : AllDigits more := fun d member =>
    digitsOf_all n d (spelled ▸ List.mem_cons_of_mem c member)
  have power := fun start => readExponent_decimal negative delimited n start lead bounded
  generalize written : (if Decimal.Layout.json.plusSign && 0 ≤ lead then ['+'] else []) ++
    decimal lead ++ rest = tail at power
  rw [spelled] at placed ⊢
  cases more with
  | nil =>
    obtain rfl : numeralFrom 0 [c] = n := value
    have text : Decimal.Layout.json.scientific [c] lead ++ rest = [c] ++ 'e' :: tail := by
      rw [← written]
      simp [Decimal.Layout.scientific]
    rw [text, readNumber_digits negative all (noDigitAhead_cons 'e' rfl _)
      (.inr ⟨c, [], rfl, notZero⟩) first, readTail_exponent negative]
    refine (power _).trans ?_
    rw [placed]
    congr 1
    simp
  | cons d more =>
    have text : Decimal.Layout.json.scientific (c :: d :: more) lead ++ rest =
        [c] ++ '.' :: ((d :: more) ++ 'e' :: tail) := by
      rw [← written]
      simp [Decimal.Layout.scientific]
    rw [text, readNumber_digits negative all (noDigitAhead_cons '.' rfl _)
      (.inr ⟨c, [], rfl, notZero⟩) first, readTail,
      readFraction_exponent negative (List.cons_ne_nil _ _) others _ _ (value.symm ▸ fits), value,
      power, placed]
    congr 1
    simp only [List.length_cons]
    omega

end Layouts

end SchemaCheck.Json

namespace SchemaCheck.Decimal

open Json Text

variable (d : Decimal)

/-- The reader of JSON text rounds the decimal to the nearest number, as a reader of JSON text
should. -/
def ReadExactly (negative : Bool) : Prop :=
  realOfParts? negative d.digits d.exponent = (d.toBinary64 negative).finite?

instance (negative : Bool) : Decidable (d.ReadExactly negative) :=
  inferInstanceAs (Decidable (_ = _))

def place : Int := d.exponent + (digitsOf d.digits).length - 1

theorem digits_lt_tenTo : d.digits < tenTo (digitsOf d.digits).length :=
  (Nat.length_toDigits_le_iff (by decide) (List.length_pos_iff.mpr (digitsOf_ne_nil _))).mp
    (Nat.le_refl _)

theorem tenTo_le_digits (filled : d.digits ≠ 0) :
    tenTo ((digitsOf d.digits).length - 1) ≤ d.digits := by
  have long : 0 < (digitsOf d.digits).length :=
    List.length_pos_iff.mpr (digitsOf_ne_nil _)
  rcases Nat.eq_or_lt_of_le long with one | more
  · rw [← one]
    exact Nat.one_le_iff_ne_zero.mpr filled
  · refine Nat.not_lt.mp fun less => ?_
    have short := (Nat.length_toDigits_le_iff (by decide) (by omega)).mpr less
    unfold digitsOf at long short
    omega

end SchemaCheck.Decimal

namespace SchemaCheck.Binary64.Finite

open Json Text

variable (x : Finite)

def written : Decimal := x.shortest .even

theorem written_toBinary64 : x.written.toBinary64 x.negative = .finite x :=
  x.shortest_toBinary64 .even

theorem written_digits_ne_zero (filled : x.units ≠ 0) : x.written.digits ≠ 0 :=
  x.shortest_digits_ne_zero .even filled

/-- The decimal that the JSON text of a number spells out. A number without a fraction that is
written without an exponent ends in a zero behind the point. -/
def spelled : Decimal :=
  if 0 ≤ x.written.exponent ∧ x.written.place ≤ Decimal.Layout.json.highest then
    ⟨x.written.digits * tenTo (x.written.exponent.toNat + 1), -1⟩
  else x.written

def magnitude : List Char :=
  if Decimal.Layout.json.lowest ≤ x.written.place &&
      x.written.place ≤ Decimal.Layout.json.highest then
    Decimal.Layout.json.positional (digitsOf x.written.digits) x.written.place
  else Decimal.Layout.json.scientific (digitsOf x.written.digits) x.written.place

theorem render_real : (Number.real x).render =
    if x.negative then '-' :: x.magnitude else x.magnitude := rfl

/-- The reader of JSON text takes the text of the number for the number. -/
def ReadExactly : Prop := x.spelled.ReadExactly x.negative

instance : Decidable x.ReadExactly := inferInstanceAs (Decidable (Decimal.ReadExactly _ _))

theorem spelled_toBinary64 : x.spelled.toBinary64 x.negative = .finite x := by
  unfold spelled
  split
  next written =>
    have shifted := Decimal.toBinary64_shift x.negative x.written.digits
      (x.written.exponent.toNat + 1) x.written.exponent
    rw [show x.written.exponent - ((x.written.exponent.toNat + 1 : Nat) : Int) = -1 by omega]
      at shifted
    rw [shifted]
    exact x.written_toBinary64
  next => exact x.written_toBinary64

/-- The first digit of a number in the range of the format is not far from the point. -/
theorem place_near (tie : Decimal.Tie) (filled : x.units ≠ 0) :
    -400 ≤ (x.shortest tie).place ∧ (x.shortest tie).place ≤ 400 := by
  have read := Decimal.toBinary64_eq x.negative (x.shortest tie)
  rw [x.shortest_toBinary64 tie, Decimal.numerator, Decimal.denominator] at read
  have long : 0 < (digitsOf (x.shortest tie).digits).length :=
    List.length_pos_iff.mpr (digitsOf_ne_nil _)
  have upper := (x.shortest tie).digits_lt_tenTo
  have lower := (x.shortest tie).tenTo_le_digits (x.shortest_digits_ne_zero tie filled)
  unfold Decimal.place
  generalize (digitsOf (x.shortest tie).digits).length = length at *
  generalize (x.shortest tie).digits = digits, (x.shortest tie).exponent = exponent at *
  constructor
  · refine Int.not_lt.mp fun far => ?_
    have tiny : digits * tenTo exponent.toNat * tenTo 400 < tenTo (-exponent).toNat :=
      calc
        digits * tenTo exponent.toNat * tenTo 400 = digits * tenTo (exponent.toNat + 400) := by
          rw [Nat.mul_assoc, ← tenTo_add]
        _ < tenTo length * tenTo (exponent.toNat + 400) :=
          Nat.mul_lt_mul_of_pos_right upper (tenTo_pos _)
        _ = tenTo (length + (exponent.toNat + 400)) := (tenTo_add _ _).symm
        _ ≤ tenTo (-exponent).toNat := tenTo_le (by omega)
    rw [Decimal.ofRatio_tiny x.negative tiny, Binary64.finite.injEq] at read
    exact filled (congrArg units read)
  · refine Int.not_lt.mp fun far => ?_
    have huge : tenTo 400 * tenTo (-exponent).toNat ≤ digits * tenTo exponent.toNat :=
      calc
        tenTo 400 * tenTo (-exponent).toNat = tenTo (400 + (-exponent).toNat) :=
          (tenTo_add _ _).symm
        _ ≤ tenTo (length - 1 + exponent.toNat) := tenTo_le (by omega)
        _ = tenTo (length - 1) * tenTo exponent.toNat := tenTo_add _ _
        _ ≤ digits * tenTo exponent.toNat := Nat.mul_le_mul_right _ lower
    rw [Decimal.ofRatio_huge x.negative (tenTo_pos _) huge] at read
    cases read

theorem place_bounded (filled : x.units ≠ 0) : x.written.place.natAbs ≤ exponentBound := by
  obtain ⟨low, high⟩ : -400 ≤ x.written.place ∧ x.written.place ≤ 400 :=
    x.place_near .even filled
  have bound : exponentBound = 2147483647 := rfl
  omega

theorem written_zero (zero : x.units = 0) : x.written.exponent = 0 ∧ x.written.place = 0 := by
  rw [written, x.shortest_zero .even zero]
  exact ⟨rfl, rfl⟩

/-- A number written without an exponent is a word together with the zero behind its point. -/
theorem whole_lt_wordBound (noExponent : x.written.place ≤ Decimal.Layout.json.highest)
    (noFraction : 0 ≤ x.written.exponent) :
    x.written.digits * tenTo (x.written.exponent.toNat + 1) < wordBound := by
  have filled : 0 < (digitsOf x.written.digits).length :=
    List.length_pos_iff.mpr (digitsOf_ne_nil _)
  have highest : Decimal.Layout.json.highest = 15 := rfl
  calc
    x.written.digits * tenTo (x.written.exponent.toNat + 1)
        < tenTo (digitsOf x.written.digits).length * tenTo (x.written.exponent.toNat + 1) :=
      Nat.mul_lt_mul_of_pos_right x.written.digits_lt_tenTo (tenTo_pos _)
    _ = tenTo ((digitsOf x.written.digits).length + (x.written.exponent.toNat + 1)) :=
      (tenTo_add _ _).symm
    _ ≤ tenTo 17 := tenTo_le (by unfold Decimal.place at noExponent; omega)
    _ < wordBound := by decide

theorem readNumber_magnitude (negative : Bool) {rest : List Char} (delimited : Delimited rest) :
    readNumber negative (x.magnitude ++ rest) =
      readReal negative x.spelled.digits x.spelled.exponent rest := by
  have fits : x.written.digits < wordBound :=
    Nat.lt_of_le_of_lt (x.shortest_digits_le .even) (by decide)
  have lowest : Decimal.Layout.json.lowest = -5 := rfl
  have highest : Decimal.Layout.json.highest = 15 := rfl
  by_cases whole : 0 ≤ x.written.exponent ∧ x.written.place ≤ Decimal.Layout.json.highest
  · obtain ⟨noFraction, noExponent⟩ := whole
    have none : x.written.digits = 0 → x.written.exponent = 0 := by
      intro none
      by_cases filled : x.units = 0
      · exact (x.written_zero filled).1
      · exact absurd none (x.written_digits_ne_zero filled)
    have filled : 0 < (digitsOf x.written.digits).length :=
      List.length_pos_iff.mpr (digitsOf_ne_nil _)
    have plain : (Decimal.Layout.json.lowest ≤ x.written.place &&
        x.written.place ≤ Decimal.Layout.json.highest) = true := by
      rw [Bool.and_eq_true, decide_eq_true_eq, decide_eq_true_eq]
      refine ⟨?_, noExponent⟩
      unfold Decimal.place
      omega
    rw [spelled, if_pos ⟨noFraction, noExponent⟩, magnitude, if_pos plain]
    exact readNumber_integral delimited rfl noFraction none
      (x.whole_lt_wordBound noExponent noFraction)
  rw [show x.spelled = x.written from if_neg whole]
  have filled : x.units ≠ 0 := by
    intro zero
    obtain ⟨exponent, place⟩ := x.written_zero zero
    omega
  have some := x.written_digits_ne_zero filled
  unfold magnitude
  split
  next plain =>
    simp only [Bool.and_eq_true, decide_eq_true_eq] at plain
    by_cases below : x.written.place < 0
    · exact readNumber_below delimited fits rfl below
    · exact readNumber_mixed delimited some fits rfl (by omega) (Int.not_lt.mp below)
  next => exact readNumber_scientific delimited some fits rfl (x.place_bounded filled)

theorem readReal_exactly {d : Decimal} (exactly : d.ReadExactly x.negative)
    (back : d.toBinary64 x.negative = .finite x) (rest : List Char) :
    readReal x.negative d.digits d.exponent rest = .ok (.real x, rest) :=
  readReal_of_parts _ (exactly.trans (congrArg Binary64.finite? back)) rest

end SchemaCheck.Binary64.Finite

namespace SchemaCheck.Json

open Text Binary64.Finite

section Integers

theorem readNumber_integer (negative : Bool) {n : Nat} (fits : n < wordBound) {rest : List Char}
    (delimited : Delimited rest) :
    readNumber negative (digitsOf n ++ rest) = .ok (wholeNumber negative n, rest) := by
  rw [readNumber_digits negative (digitsOf_all n) delimited.noDigit (digitsOf_leads n)
    ((numeral_digitsOf n).symm ▸ fits), numeral_digitsOf, readTail_whole negative delimited]

theorem wholeNumber_integer (n : Int) (low : -(signedBound : Int) ≤ n)
    (high : n < (wordBound : Int)) :
    wholeNumber (decide (n < 0)) n.natAbs = .integer n low high := by
  have exactly : Number.ofInt? n = some (.integer n low high) := dif_pos ⟨low, high⟩
  unfold wholeNumber
  by_cases down : n < 0
  · have magnitude : -(n.natAbs : Int) = n := by omega
    simp only [down, decide_true, if_true, magnitude, exactly, Option.getD_some]
    rw [if_neg (by omega)]
  · have magnitude : (n.natAbs : Int) = n := by omega
    simp only [down, decide_false, Bool.false_eq_true, if_false, magnitude, exactly,
      Option.getD_some]

end Integers

section Numbers

def NumberChar (c : Char) : Prop :=
  c.isDigit = true ∨ c = '.' ∨ c = 'e' ∨ c = '+' ∨ c = '-'

theorem decimal_chars {n : Int} {c : Char} (member : c ∈ decimal n) : NumberChar c := by
  unfold decimal at member
  split at member
  · rcases List.mem_cons.mp member with rfl | digit
    · exact .inr (.inr (.inr (.inr rfl)))
    · exact .inl (digitsOf_all _ c digit)
  · exact .inl (digitsOf_all _ c member)

variable {layout : Decimal.Layout} {digits : List Char} {lead : Int} {c : Char}

theorem positional_chars (all : AllDigits digits) (member : c ∈ layout.positional digits lead) :
    NumberChar c := by
  have padded : ∀ count, AllDigits (digits ++ List.replicate count '0') := fun count =>
    all.append (allDigits_zeros count)
  unfold Decimal.Layout.positional at member
  split at member
  · rcases List.mem_cons.mp member with rfl | member
    · exact .inl rfl
    rcases List.mem_cons.mp member with rfl | member
    · exact .inr (.inl rfl)
    · exact .inl ((allDigits_zeros _).append all c member)
  · rcases List.mem_append.mp member with whole | behind
    · exact .inl ((padded _).take _ c whole)
    split at behind
    · rcases List.mem_cons.mp behind with rfl | fraction
      · exact .inr (.inl rfl)
      · exact .inl ((padded _).drop _ c fraction)
    · split at behind
      · rcases List.mem_cons.mp behind with rfl | zero
        · exact .inr (.inl rfl)
        · exact .inl (allDigits_zeros 1 c zero)
      · cases behind

theorem scientific_chars (all : AllDigits digits) (member : c ∈ layout.scientific digits lead) :
    NumberChar c := by
  unfold Decimal.Layout.scientific at member
  simp only [List.mem_append, List.mem_singleton] at member
  rcases member with (((first | others) | rfl) | sign) | exponent
  · exact .inl (all.take 1 c first)
  · split at others
    · cases others
    · rcases List.mem_cons.mp others with rfl | digit
      · exact .inr (.inl rfl)
      · exact .inl (all.drop 1 c digit)
  · exact .inr (.inr (.inl rfl))
  · split at sign
    · exact .inr (.inr (.inr (.inl (List.mem_singleton.mp sign))))
    · cases sign
  · exact decimal_chars exponent

theorem magnitude_chars {x : Binary64.Finite} (member : c ∈ x.magnitude) : NumberChar c := by
  unfold magnitude at member
  split at member
  · exact positional_chars (digitsOf_all _) member
  · exact scientific_chars (digitsOf_all _) member

theorem render_chars (n : Number) (member : c ∈ n.render) : NumberChar c := by
  cases n with
  | integer => exact decimal_chars member
  | real x =>
    rw [render_real] at member
    split at member
    · rcases List.mem_cons.mp member with rfl | member
      · exact .inr (.inr (.inr (.inr rfl)))
      · exact magnitude_chars member
    · exact magnitude_chars member

theorem positional_head (layout : Decimal.Layout) (n : Nat) (lead : Int) :
    ∃ c rest, layout.positional (digitsOf n) lead = c :: rest ∧ c.isDigit = true := by
  obtain ⟨c, more, spelled⟩ := List.exists_cons_of_ne_nil (digitsOf_ne_nil n)
  have digit : c.isDigit = true := digitsOf_all _ c (spelled ▸ List.mem_cons_self)
  unfold Decimal.Layout.positional
  rw [spelled]
  split
  · exact ⟨'0', _, rfl, rfl⟩
  · exact ⟨c, _, rfl, digit⟩

theorem magnitude_head (x : Binary64.Finite) :
    ∃ c rest, x.magnitude = c :: rest ∧ c.isDigit = true := by
  unfold magnitude
  split
  · exact positional_head _ _ _
  · obtain ⟨c, more, spelled⟩ := List.exists_cons_of_ne_nil (digitsOf_ne_nil x.written.digits)
    have digit : c.isDigit = true := digitsOf_all _ c (spelled ▸ List.mem_cons_self)
    rw [Decimal.Layout.scientific, spelled]
    exact ⟨c, _, rfl, digit⟩

theorem readScalar_digit {c : Char} (digit : c.isDigit = true) (text : List Char) :
    readScalar (c :: text) =
      (readNumber false (c :: text)).map fun r => (.number r.1, r.2) := by
  rw [readScalar]
  · rw [if_pos digit]
  all_goals
    rintro rfl
    cases digit

variable {rest : List Char}

theorem readScalar_signed {negative : Bool} {text : List Char} {n : Number}
    (head : ∃ c more, text = c :: more ∧ c.isDigit = true)
    (read : readNumber negative text = .ok (n, rest)) :
    readScalar (if negative then '-' :: text else text) = .ok (.number n, rest) := by
  cases negative with
  | true =>
    rw [if_pos rfl, readScalar, read]
    rfl
  | false =>
    obtain ⟨c, more, rfl, digit⟩ := head
    rw [if_neg Bool.false_ne_true, readScalar_digit digit, read]
    rfl

theorem digitsOf_starts (n : Nat) (rest : List Char) :
    ∃ c more, digitsOf n ++ rest = c :: more ∧ c.isDigit = true := by
  obtain ⟨c, more, spelled⟩ := List.exists_cons_of_ne_nil (digitsOf_ne_nil n)
  exact ⟨c, more ++ rest, by rw [spelled, List.cons_append],
    digitsOf_all n c (spelled ▸ List.mem_cons_self)⟩

theorem readScalar_integer (n : Int) (low : -(signedBound : Int) ≤ n) (high : n < (wordBound : Int))
    (delimited : Delimited rest) :
    readScalar (decimal n ++ rest) = .ok (.number (.integer n low high), rest) := by
  have fits : n.natAbs < wordBound := by
    have signed : signedBound < wordBound := by decide
    omega
  have read := readNumber_integer (decide (n < 0)) fits delimited
  rw [wholeNumber_integer n low high] at read
  have scalar := readScalar_signed (digitsOf_starts n.natAbs rest) read
  rw [decimal]
  by_cases down : n < 0
  · rw [if_pos (decide_eq_true down)] at scalar
    rwa [if_pos down, List.cons_append]
  · rw [if_neg (by simpa using down)] at scalar
    rwa [if_neg down]

theorem readScalar_real {x : Binary64.Finite} (exactly : x.ReadExactly)
    (delimited : Delimited rest) :
    readScalar ((Number.real x).render ++ rest) = .ok (.number (.real x), rest) := by
  have read := x.readNumber_magnitude x.negative delimited
  rw [x.readReal_exactly exactly x.spelled_toBinary64 rest] at read
  obtain ⟨c, more, spelled, digit⟩ := magnitude_head x
  have scalar := readScalar_signed
    ⟨c, more ++ rest, by rw [spelled, List.cons_append], digit⟩ read
  rw [render_real]
  cases sign : x.negative with
  | true => rwa [sign, if_pos rfl] at scalar
  | false => rwa [sign, if_neg Bool.false_ne_true] at scalar

theorem readScalar_number (n : Number) (exactly : ∀ x, n = .real x → x.ReadExactly)
    (delimited : Delimited rest) : readScalar (n.render ++ rest) = .ok (.number n, rest) := by
  cases n with
  | integer n low high => exact readScalar_integer n low high delimited
  | real x => exact readScalar_real (exactly x rfl) delimited

end Numbers

end SchemaCheck.Json
