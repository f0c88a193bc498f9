import SchemaCheck.Proofs.Duration.Amounts

/-!
The canonical text of a duration. It is a list of amounts that come to the duration
(`sums_render`), and reading such a list gives what its amounts come to (`readAmounts_sums`). Hence the
text is read as the duration, before any other layout is tried (`ofText?_render`).
-/

namespace SchemaCheck.Duration

open Text

theorem Unit.letters_of_name {name : String} {unit : Unit} (known : ofName? name = some unit) :
    name.toList ≠ [] ∧ ∀ c ∈ name.toList, isUnitLetter c = true := by
  have all : ∀ name ∈ unit.names, name.toList ≠ [] ∧ name.toList.all isUnitLetter = true := by
    cases unit <;> decide
  obtain ⟨filled, letters⟩ := all name (mem_names known)
  exact ⟨filled, List.all_eq_true.mp letters⟩

def Amount.plain {name : String} {unit : Unit} (count : Nat)
    (known : Unit.ofName? name = some unit) : Amount :=
  .dense ⟨digitsOf count, digitsOf_ne_nil count, digitsOf_all count⟩ name.toList
    (Unit.letters_of_name known).1 (Unit.letters_of_name known).2

/-- Texts of amounts, and the nanoseconds that they come to. -/
inductive Sums : List String → Nat → Prop where
  | nil : Sums [] 0
  | cons {amount : Amount} {unit : Unit} {items : List String} {total : Nat}
      (known : amount.unit? = some unit) (few : unit.Few amount.count.value)
      (more : Sums items total) :
      Sums (String.ofList amount.text :: items) (amount.count.value * unit.nanoseconds + total)

section Reading

variable {d : Duration} {needed : Bool} {m n total : Nat} {items : List String}

theorem intercalate_cons (item : String) (items : List String) :
    ∃ rest, (" ".intercalate (item :: items)).toList = item.toList ++ rest ∧ NoLetterAhead rest ∧
      ∀ d, readAmounts d (.start false) rest =
        readAmounts d (.start false) (" ".intercalate items).toList := by
  cases items with
  | nil => exact ⟨[], by simp, noLetterAhead_nil, fun d => rfl⟩
  | cons next items =>
    refine ⟨' ' :: (" ".intercalate (next :: items)).toList, ?_, ?_, ?_⟩
    · rw [String.intercalate_cons_cons, String.toList_append, String.toList_append,
        List.append_assoc]
      rfl
    · exact noLetterAhead_cons (by decide) _
    · exact fun d => readAmounts_blank (by decide)

theorem readAmounts_sums (sums : Sums items total) (filled : needed = true → items ≠ []) :
    readAmounts d (.start needed) (" ".intercalate items).toList =
      ofNanoseconds? (d.nanoseconds + total) := by
  -- Over the items, from any duration on; an amount is needed only as long as there is none.
  induction sums generalizing d needed with
  | nil =>
    have enough : needed = false := by
      cases needed with
      | false => rfl
      | true => exact absurd rfl (filled rfl)
    rw [enough, Nat.add_zero, ofNanoseconds?_self]
    rfl
  | @cons amount unit items total known few more ih =>
    obtain ⟨rest, spelled, ahead, same⟩ := intercalate_cons (String.ofList amount.text) items
    have others : ∀ d, readAmounts d (.start false) rest =
        ofNanoseconds? (d.nanoseconds + total) := fun d =>
      (same d).trans (ih fun unneeded => (nomatch unneeded))
    rw [spelled, String.toList_ofList, readAmounts_known known few ahead, ← Nat.add_assoc]
    simp only [others, ofNanoseconds?_bind]

end Reading

section Rendering

variable {d : Duration} {m n count : Nat} {items others : List String} {name : String}
  {unit : Unit}

theorem Sums.append (sums : Sums items m) (also : Sums others n) :
    Sums (items ++ others) (m + n) := by
  induction sums with
  | nil =>
    rw [Nat.zero_add]
    exact also
  | cons known few _ ih =>
    rw [Nat.add_assoc]
    exact ih.cons known few

theorem sums_single (known : Unit.ofName? name = some unit) (few : unit.Few count) :
    Sums [toString count ++ name] (count * unit.nanoseconds) := by
  have spelled : toString count ++ name = String.ofList (Amount.plain count known).text := by
    rw [← String.toList_inj, String.toList_append, String.toList_ofList, Nat.toString_eq_repr,
      Nat.toList_repr]
    rfl
  have value : (Amount.plain count known).count.value = count := numeral_digitsOf count
  have named : (Amount.plain count known).unit? = some unit := by
    rw [Amount.unit?, Amount.plain, Amount.dense, String.ofList_toList, known]
  have sums := Sums.nil.cons named (by rwa [value])
  rwa [← spelled, value, Nat.add_zero] at sums

theorem sums_item (known : Unit.ofName? name = some unit) (few : unit.Few count) :
    Sums (item name count) (count * unit.nanoseconds) := by
  unfold item
  split
  next none =>
    rw [none, Nat.zero_mul]
    exact .nil
  next => exact sums_single known few

theorem sums_pluralItem (known : Unit.ofName? name = some unit)
    (plural : Unit.ofName? (name ++ "s") = some unit) (whole : unit.length.2 = false) :
    Sums (pluralItem name count) (count * unit.nanoseconds) := by
  have few := Unit.few_of_whole whole count
  unfold pluralItem
  split
  · exact sums_item plural few
  · exact sums_item known few

theorem sums_counts {years months days hours minutes seconds ms us ns all part : Nat}
    (allSum : years * 31557600 + months * 2630016 + days * 86400 + hours * 3600 + minutes * 60 +
      seconds = all)
    (partSum : ms * 1000000 + us * 1000 + ns = part)
    (msFew : ms < 1000) (usFew : us < 1000) (nsFew : ns < 1000) :
    Sums (pluralItem "year" years ++ pluralItem "month" months ++ pluralItem "day" days ++
        item "h" hours ++ item "m" minutes ++ item "s" seconds ++
        item "ms" ms ++ item "us" us ++ item "ns" ns) (all * second + part) := by
  have length : second = 1000000000 := by decide
  have year : Sums (pluralItem "year" years) (years * Unit.year.nanoseconds) :=
    sums_pluralItem (by decide) (by decide) rfl
  have month : Sums (pluralItem "month" months) (months * Unit.month.nanoseconds) :=
    sums_pluralItem (by decide) (by decide) rfl
  have day : Sums (pluralItem "day" days) (days * Unit.day.nanoseconds) :=
    sums_pluralItem (by decide) (by decide) rfl
  have hour : Sums (item "h" hours) (hours * Unit.hour.nanoseconds) :=
    sums_item (by decide) (Unit.few_of_whole rfl _)
  have minute : Sums (item "m" minutes) (minutes * Unit.minute.nanoseconds) :=
    sums_item (by decide) (Unit.few_of_whole rfl _)
  have whole : Sums (item "s" seconds) (seconds * Unit.second.nanoseconds) :=
    sums_item (by decide) (Unit.few_of_whole rfl _)
  have milli : Sums (item "ms" ms) (ms * Unit.millisecond.nanoseconds) := by
    apply sums_item (by decide)
    simp only [Unit.Few, Unit.length]
    omega
  have micro : Sums (item "us" us) (us * Unit.microsecond.nanoseconds) := by
    apply sums_item (by decide)
    simp only [Unit.Few, Unit.length]
    omega
  have nano : Sums (item "ns" ns) (ns * Unit.nanosecond.nanoseconds) := by
    apply sums_item (by decide)
    simp only [Unit.Few, Unit.length]
    omega
  have sums := (((((((year.append month).append day).append hour).append minute).append
    whole).append milli).append micro).append nano
  simp only [Unit.nanoseconds, Unit.length, Bool.false_eq_true, if_true, if_false,
    ← Nat.mul_assoc, ← Nat.add_mul, Nat.mul_one] at sums
  rwa [Nat.add_assoc, Nat.add_assoc, ← Nat.add_assoc (ms * 1000000), allSum, partSum] at sums

theorem Sums.ne_nil (sums : Sums items n) (positive : n ≠ 0) : items ≠ [] := by
  intro empty
  subst empty
  cases sums
  exact positive rfl

theorem sums_render (d : Duration) :
    ∃ items, items ≠ [] ∧ Sums items d.nanoseconds ∧ d.render = " ".intercalate items := by
  by_cases nothing : d.nanoseconds = 0
  · have sums : Sums [toString 0 ++ "s"] (0 * Unit.second.nanoseconds) :=
      sums_single (by decide) (Unit.few_of_whole rfl _)
    have total : 0 * Unit.second.nanoseconds = d.nanoseconds := by rw [Nat.zero_mul, nothing]
    rw [total] at sums
    refine ⟨_, List.cons_ne_nil _ _, sums, ?_⟩
    rw [render, if_pos nothing]
    rfl
  · have few : d.subseconds < 1000000000 := Nat.mod_lt _ (by decide)
    have total : d.seconds * second + d.subseconds = d.nanoseconds := Nat.div_add_mod' _ _
    obtain ⟨items, sums, spelled⟩ :
        ∃ items, Sums items d.nanoseconds ∧ d.render = " ".intercalate items := by
      rw [render, if_neg nothing]
      refine ⟨_, ?_, rfl⟩
      rw [← total]
      apply sums_counts
      all_goals omega
    exact ⟨items, sums.ne_nil nothing, sums, spelled⟩

end Rendering

section Reread

variable (d : Duration)

theorem readAmounts_render : readAmounts zero (.start true) d.render.toList = some d := by
  obtain ⟨items, filled, sums, spelled⟩ := sums_render d
  rw [spelled, readAmounts_sums sums fun _ => filled, ← ofNanoseconds?_self d]
  exact congrArg _ (Nat.zero_add _)

theorem ofText?_render : ofText? d.render.toList = some d := by
  have other : d.render.toList ≠ ['0'] := by
    intro zero
    have read := readAmounts_render d
    rw [zero] at read
    cases read
  rw [ofText?, ofAmounts?, if_neg other, readAmounts_render]

theorem Sums.ends {items : List String} {total : Nat} (sums : Sums items total)
    (filled : items ≠ []) :
    ∃ front c, (" ".intercalate items).toList = front ++ [c] ∧ isBlank c = false := by
  induction sums with
  | nil => exact absurd rfl filled
  | @cons amount unit items total known few more ih =>
    by_cases last : items = []
    · have solid : ∀ c ∈ amount.letters, isBlank c = false :=
        fun c member => isBlank_of_isUnitLetter (amount.letter c member)
      rw [last, String.intercalate_singleton, String.toList_ofList, Amount.text,
        ← List.append_assoc]
      exact ends_solid amount.filled solid _
    · obtain ⟨front, c, ends, solid⟩ := ih last
      rw [String.intercalate_cons_of_ne_nil last, String.toList_append, ends, ← List.append_assoc]
      exact ⟨_, c, rfl, solid⟩

theorem Sums.starts {items : List String} {total : Nat} (sums : Sums items total)
    (filled : items ≠ []) :
    ∃ c rest, (" ".intercalate items).toList = c :: rest ∧ isBlank c = false := by
  cases sums with
  | nil => exact absurd rfl filled
  | @cons amount unit items total known few more =>
    obtain ⟨rest, spelled, _, _⟩ := intercalate_cons (String.ofList amount.text) items
    rw [spelled, String.toList_ofList, Amount.text, List.append_assoc]
    exact starts_solid amount.count.filled amount.count.all.solid _

theorem trim_render : trim d.render.toList = d.render.toList := by
  obtain ⟨items, filled, sums, spelled⟩ := sums_render d
  rw [spelled]
  exact trim_of_ends (sums.starts filled) (sums.ends filled)

end Reread

end SchemaCheck.Duration
