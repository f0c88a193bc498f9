import SchemaCheck.Proofs.Number.Rounding

/-!
The decimal that is written for a number. Seventeen digits always tell the numbers of the format
apart, so the search for the fewest digits succeeds: what it finds reads back as the number
(`shortest_toBinary64`) and has digits that fit into a word (`shortest_digits_le`).
-/

namespace SchemaCheck

open Binary64

theorem tenTo_mul_le {a b : Nat} {p q r s : Nat} (bound : tenTo q * a ≤ b * tenTo p)
    (ordered : s + p ≤ q + r) : tenTo s * a ≤ b * tenTo r := by
  refine Nat.le_of_mul_le_mul_right ?_ (tenTo_pos p)
  calc
    tenTo s * a * tenTo p = tenTo (s + p) * a := by rw [tenTo_add, Nat.mul_right_comm]
    _ ≤ tenTo (q + r) * a := by gcongr; exact tenTo_le ordered
    _ = tenTo q * a * tenTo r := by rw [tenTo_add, Nat.mul_right_comm]
    _ ≤ b * tenTo p * tenTo r := by gcongr
    _ = b * tenTo r * tenTo p := Nat.mul_right_comm _ _ _

theorem tenTo_mul_lt {a b : Nat} {p q r s : Nat} (bound : b * tenTo p < tenTo q * a)
    (ordered : q + r ≤ s + p) : b * tenTo r < tenTo s * a := by
  refine Nat.lt_of_mul_lt_mul_right (a := tenTo p) ?_
  calc
    b * tenTo r * tenTo p = b * tenTo p * tenTo r := Nat.mul_right_comm _ _ _
    _ < tenTo q * a * tenTo r := Nat.mul_lt_mul_of_pos_right bound (tenTo_pos r)
    _ = tenTo (q + r) * a := by rw [tenTo_add, Nat.mul_right_comm]
    _ ≤ tenTo (s + p) * a := by gcongr; exact tenTo_le ordered
    _ = tenTo s * a * tenTo p := by rw [tenTo_add, Nat.mul_right_comm]

namespace Binary64.Finite

section Leading

theorem atLeastPow_iff (x : Finite) (k : Int) : x.atLeastPow k = true ↔
    tenTo k.toNat * twoTo unitExponent ≤ x.units * tenTo (-k).toNat := by
  unfold atLeastPow
  split
  next small =>
    rw [Int.toNat_of_nonpos (show -k ≤ 0 by omega), show tenTo 0 = 1 from rfl, Nat.mul_one]
    exact decide_eq_true_iff
  next large =>
    rw [Int.toNat_of_nonpos (show k ≤ 0 by omega), show tenTo 0 = 1 from rfl, Nat.one_mul]
    exact decide_eq_true_iff

def guess (log : Nat) : Int := (((log : Int) - unitExponent) * 30103).fdiv 100000

/-- From `2 ^ log` on up to `2 ^ (log + 1)` the guess is wrong by one at most. -/
def GuessNear (log : Nat) : Prop :=
  tenTo (guess log - 1).toNat * twoTo unitExponent ≤ twoTo log * tenTo (-(guess log - 1)).toNat ∧
    twoTo (log + 1) * tenTo (-(guess log + 2)).toNat ≤
      tenTo (guess log + 2).toNat * twoTo unitExponent

instance (log : Nat) : Decidable (GuessNear log) := inferInstanceAs (Decidable (_ ∧ _))

theorem guess_near : ∀ log < digitBound, GuessNear log := by decide +kernel

variable {x : Finite}

theorem log2_bounds {units : Nat} (filled : units ≠ 0) :
    twoTo units.log2 ≤ units ∧ units < twoTo (units.log2 + 1) :=
  ⟨Nat.not_lt.mp fun less => Nat.lt_irrefl _ ((log2_lt_iff filled).mpr less),
    (log2_lt_iff filled).mp (Nat.lt_succ_self _)⟩

theorem atLeastPow_leadingPosition (filled : x.units ≠ 0) :
    x.atLeastPow x.leadingPosition = true := by
  unfold leadingPosition
  dsimp only
  split
  next reached => exact reached
  split
  next reached => exact reached
  next =>
    rw [atLeastPow_iff]
    exact (guess_near x.units.log2 x.bounded).1.trans
      (Nat.mul_le_mul_right _ (log2_bounds filled).1)

theorem not_atLeastPow_succ (filled : x.units ≠ 0) :
    x.atLeastPow (x.leadingPosition + 1) = false := by
  unfold leadingPosition
  dsimp only
  split
  next =>
    rw [Bool.eq_false_iff, ne_eq, atLeastPow_iff, Nat.not_le, Int.add_assoc]
    refine Nat.lt_of_lt_of_le ?_ (guess_near x.units.log2 x.bounded).2
    exact Nat.mul_lt_mul_of_pos_right (log2_bounds filled).2 (tenTo_pos _)
  next missed =>
    split
    next => exact Bool.eq_false_iff.mpr missed
    next short =>
      rw [Int.sub_add_cancel]
      exact Bool.eq_false_iff.mpr short

end Leading

section Digits

variable {x : Finite} {tie : Decimal.Tie}

/-- The number as a ratio, counted in the last place of a decimal of `count` digits. -/
def numeratorAt (x : Finite) (count : Nat) : Nat :=
  x.units * tenTo ((count : Int) - 1 - x.leadingPosition).toNat

def denominatorAt (x : Finite) (count : Nat) : Nat :=
  twoTo unitExponent * tenTo (-((count : Int) - 1 - x.leadingPosition)).toNat

theorem denominatorAt_pos (x : Finite) (count : Nat) : 0 < x.denominatorAt count :=
  Nat.mul_pos (twoTo_pos _) (tenTo_pos _)

def decimalAt (x : Finite) (count digits : Nat) : Decimal :=
  ⟨digits, -((count : Int) - 1 - x.leadingPosition)⟩

def triesBelow (tie : Decimal.Tie) (num den : Nat) : Bool :=
  2 * (num % den) < den || (2 * (num % den) == den && tie.takesLower (num / den))

/-- The two decimals next to the number are tried, the nearer one first. -/
theorem withDigits?_eq (x : Finite) (tie : Decimal.Tie) (count : Nat) :
    x.withDigits? tie count =
      (if triesBelow tie (x.numeratorAt count) (x.denominatorAt count) then
        [x.decimalAt count (x.numeratorAt count / x.denominatorAt count),
          x.decimalAt count (x.numeratorAt count / x.denominatorAt count + 1)]
      else
        [x.decimalAt count (x.numeratorAt count / x.denominatorAt count + 1),
          x.decimalAt count (x.numeratorAt count / x.denominatorAt count)]).find? x.readsBack := by
  have numerator : (if 0 ≤ (count : Int) - 1 - x.leadingPosition then
      x.units * tenTo ((count : Int) - 1 - x.leadingPosition).toNat else x.units) =
        x.numeratorAt count := by
    unfold numeratorAt
    split
    · rfl
    · rw [Int.toNat_of_nonpos (by omega)]
      exact (Nat.mul_one _).symm
  have denominator : (twoTo unitExponent * if 0 ≤ (count : Int) - 1 - x.leadingPosition then 1
      else tenTo (-((count : Int) - 1 - x.leadingPosition)).toNat) = x.denominatorAt count := by
    unfold denominatorAt
    split
    next whole =>
      rw [Int.toNat_of_nonpos (show -((count : Int) - 1 - x.leadingPosition) ≤ 0 by omega),
        show tenTo 0 = 1 from rfl]
    next => rfl
  unfold withDigits? triesBelow decimalAt
  dsimp only
  rw [numerator, denominator]

theorem numeratorAt_lt (filled : x.units ≠ 0) (count : Nat) :
    x.numeratorAt count < tenTo count * x.denominatorAt count := by
  have short := not_atLeastPow_succ filled
  rw [Bool.eq_false_iff, ne_eq, atLeastPow_iff, Nat.not_le] at short
  unfold numeratorAt denominatorAt
  rw [Nat.mul_left_comm, ← tenTo_add, Nat.mul_comm (twoTo _)]
  exact tenTo_mul_lt short (by omega)

theorem le_numeratorAt_seventeen (filled : x.units ≠ 0) :
    tenTo 16 * x.denominatorAt 17 ≤ x.numeratorAt 17 := by
  have reached := atLeastPow_leadingPosition filled
  rw [atLeastPow_iff] at reached
  unfold numeratorAt denominatorAt
  rw [Nat.mul_left_comm, ← tenTo_add, Nat.mul_comm (twoTo _)]
  exact tenTo_mul_le reached (by omega)

/-- A decimal of seventeen places that is as near as can be reads back as the number. -/
theorem readsBack_near (filled : x.units ≠ 0) {digits : Nat}
    (below : 2 * (digits * x.denominatorAt 17) ≤ 2 * x.numeratorAt 17 + x.denominatorAt 17)
    (above : 2 * x.numeratorAt 17 ≤ 2 * (digits * x.denominatorAt 17) + x.denominatorAt 17) :
    x.readsBack (x.decimalAt 17 digits) = true := by
  have large := le_numeratorAt_seventeen filled
  have positive := x.denominatorAt_pos 17
  have rounded : roundToGrid (digits * x.denominatorAt 17)
      (tenTo (((17 : Nat) : Int) - 1 - x.leadingPosition).toNat) = x.units := by
    obtain ⟨_, _, two54⟩ := twoTo_values
    rw [show tenTo 16 = 10000000000000000 from rfl] at large
    refine roundToGrid_near x.onGrid ?_ ?_
    all_goals
      rw [← numeratorAt, two54]
      generalize x.denominatorAt 17 = d at *
      generalize digits * d = c at *
      omega
  have numerator : (x.decimalAt 17 digits).numerator * twoTo unitExponent =
      digits * x.denominatorAt 17 := by
    rw [Decimal.numerator, decimalAt, denominatorAt, Nat.mul_assoc, Nat.mul_comm (tenTo _)]
  have denominator : (x.decimalAt 17 digits).denominator =
      tenTo (((17 : Nat) : Int) - 1 - x.leadingPosition).toNat := by
    rw [Decimal.denominator, decimalAt, Int.neg_neg]
  rw [readsBack, beq_iff_eq, Decimal.toBinary64_eq, ofRatio, numerator, denominator]
  exact ofUnitRatio_eq x.negative rounded x.onGrid x.bounded

theorem withDigits?_seventeen (filled : x.units ≠ 0) : ∃ d, x.withDigits? tie 17 = some d := by
  have parts := Nat.div_add_mod (x.numeratorAt 17) (x.denominatorAt 17)
  have left := Nat.mod_lt (x.numeratorAt 17) (x.denominatorAt_pos 17)
  rw [Nat.mul_comm] at parts
  rw [withDigits?_eq]
  split
  next below =>
    have near : 2 * (x.numeratorAt 17 % x.denominatorAt 17) ≤ x.denominatorAt 17 := by
      simp only [triesBelow, Bool.or_eq_true, decide_eq_true_eq, Bool.and_eq_true,
        beq_iff_eq] at below
      omega
    exact ⟨_, List.find?_cons_of_pos (readsBack_near filled (by omega) (by omega))⟩
  next above =>
    have near : x.denominatorAt 17 ≤ 2 * (x.numeratorAt 17 % x.denominatorAt 17) := by
      simp only [triesBelow, Bool.or_eq_true, decide_eq_true_eq, not_or] at above
      omega
    refine ⟨_, List.find?_cons_of_pos (readsBack_near filled ?_ ?_)⟩
    all_goals
      rw [Nat.add_mul]
      omega

theorem withDigits?_spec (filled : x.units ≠ 0) {count : Nat} {d : Decimal}
    (found : x.withDigits? tie count = some d) : x.readsBack d = true ∧ d.digits ≤ tenTo count := by
  rw [withDigits?_eq] at found
  refine ⟨List.find?_some found, ?_⟩
  have below : x.numeratorAt count / x.denominatorAt count < tenTo count :=
    (Nat.div_lt_iff_lt_mul (x.denominatorAt_pos count)).mpr (numeratorAt_lt filled count)
  have member := List.mem_of_find?_eq_some found
  split at member
  all_goals
    simp only [List.mem_cons, List.not_mem_nil, or_false] at member
    rcases member with rfl | rfl
    all_goals
      simp only [decimalAt]
      omega

end Digits

section Shortest

theorem stripZeros_toBinary64 (negative : Bool) (fuel : Nat) (d : Decimal) :
    (d.stripZeros fuel).toBinary64 negative = d.toBinary64 negative := by
  induction fuel generalizing d with
  | zero => rfl
  | succ fuel ih =>
    rw [Decimal.stripZeros]
    split
    next zeros =>
      simp only [Bool.and_eq_true, beq_iff_eq] at zeros
      have split : d.digits / 10 * tenTo 1 = d.digits :=
        Nat.div_mul_cancel (Nat.dvd_of_mod_eq_zero zeros.2)
      have shifted := Decimal.toBinary64_shift negative (d.digits / 10) 1 (d.exponent + 1)
      rw [split, show d.exponent + 1 - (1 : Nat) = d.exponent by omega] at shifted
      rw [ih, shifted]
    next => rfl

theorem stripZeros_digits_le (fuel : Nat) (d : Decimal) :
    (d.stripZeros fuel).digits ≤ d.digits := by
  induction fuel generalizing d with
  | zero => exact Nat.le_refl _
  | succ fuel ih =>
    rw [Decimal.stripZeros]
    split
    · exact (ih _).trans (Nat.div_le_self _ _)
    · exact Nat.le_refl _

variable (x : Finite) (tie : Decimal.Tie)

/-- The search for the fewest digits ends with seventeen at the latest. -/
theorem shortest_found (filled : x.units ≠ 0) : ∃ d, x.readsBack d = true ∧ d.digits ≤ tenTo 17 ∧
    x.shortest tie = d.stripZeros 1100 := by
  unfold shortest
  rw [if_neg (by simpa using filled)]
  cases search : (List.range 17).findSome? fun n => x.withDigits? tie (n + 1) with
  | none =>
    obtain ⟨d, found⟩ := withDigits?_seventeen filled
    rw [List.findSome?_eq_none_iff] at search
    cases (search 16 (by decide)).symm.trans found
  | some d =>
    obtain ⟨n, inRange, found⟩ := List.exists_of_findSome?_eq_some search
    obtain ⟨back, few⟩ := withDigits?_spec filled found
    have most : n + 1 ≤ 17 := List.mem_range.mp inRange
    exact ⟨d, back, few.trans (tenTo_le most), rfl⟩

/-- The decimal that is written for a number reads back as the number. -/
theorem shortest_toBinary64 : (x.shortest tie).toBinary64 x.negative = .finite x := by
  by_cases zero : x.units = 0
  · obtain ⟨negative, units, onGrid, bounded⟩ := x
    subst zero
    rfl
  · obtain ⟨d, back, _, same⟩ := x.shortest_found tie zero
    rw [same, stripZeros_toBinary64]
    exact beq_iff_eq.mp back

theorem shortest_digits_le : (x.shortest tie).digits ≤ tenTo 17 := by
  by_cases zero : x.units = 0
  · rw [shortest, if_pos (by simpa using zero)]
    exact Nat.zero_le _
  · obtain ⟨d, _, few, same⟩ := x.shortest_found tie zero
    rw [same]
    exact (stripZeros_digits_le _ _).trans few

/-- Only zero is written without a digit other than zero. -/
theorem shortest_digits_ne_zero (filled : x.units ≠ 0) : (x.shortest tie).digits ≠ 0 := by
  intro none
  have back := x.shortest_toBinary64 tie
  unfold Decimal.toBinary64 ofDecimal at back
  rw [if_pos none] at back
  injection back with same
  exact filled (congrArg units same).symm

theorem shortest_zero (zero : x.units = 0) : x.shortest tie = ⟨0, 0⟩ := by
  rw [shortest, if_pos (by simpa using zero)]

end Shortest

end Binary64.Finite

end SchemaCheck
