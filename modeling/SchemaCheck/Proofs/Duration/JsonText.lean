import SchemaCheck.Proofs.Duration.Layouts
import SchemaCheck.Proofs.Json.Word

/-!
JSON texts as durations. The only JSON texts that are read as durations are those of numbers
(`ofText?_spelled`): the letter of an exponent is no unit, and no layout of a time goes on with a
point. So they count milliseconds (`ofText?_numeral`).
-/

namespace SchemaCheck.Duration

open Json Text

section Amounts

variable {d : Duration} {digits text : List Char}

/-- A letter of an exponent, followed by a character that is no letter, is not read as a unit. -/
theorem readAmounts_unit {mark c : Char} (marked : mark ∈ ['e', 'E'])
    (other : isUnitLetter c = false) (n : Nat) (part : Option Fraction) (rest : List Char) :
    readAmounts d (.unit n part [mark]) (c :: rest) = none := by
  have unknown : ∀ mark ∈ ['e', 'E'], Unit.ofName? (String.ofList [mark]) = none := by
    simp only [List.mem_cons, List.not_mem_nil, or_false, forall_eq_or_imp, forall_eq]
    decide
  have stuck : d.finish? n part [mark] = none :=
    Option.bind_eq_none_iff.mpr fun unit named => nomatch (unknown mark marked).symm.trans named
  rw [readAmounts, Reading.step?, other, if_neg Bool.false_ne_true, stuck]
  rfl

theorem exponent_starts (proper : IsExponent text) :
    ∃ mark c rest, text = mark :: c :: rest ∧ mark ∈ ['e', 'E'] ∧ isUnitLetter c = false := by
  obtain ⟨marked, signed, filled, all⟩ := proper
  cases signed with
  | none =>
    obtain ⟨c, digits, rfl⟩ := List.exists_cons_of_ne_nil filled
    exact ⟨_, c, digits, rfl, marked, isUnitLetter_of_isDigit (all c List.mem_cons_self)⟩
  | plus => exact ⟨_, '+', _, rfl, marked, rfl⟩
  | minus => exact ⟨_, '-', _, rfl, marked, rfl⟩

theorem readAmounts_exponent (proper : IsExponent text) (n : Nat) :
    readAmounts d (.count n) text = none ∧
      ∀ part, readAmounts d (.fraction n part) text = none := by
  obtain ⟨mark, c, rest, rfl, marked, other⟩ := exponent_starts proper
  have letter : ∀ mark ∈ ['e', 'E'], isUnitLetter mark = true := by simp [isUnitLetter]
  have unit := letter mark marked
  constructor
  · rw [readAmounts_step (step?_letter unit), readAmounts_unit marked other]
  · intro part
    by_cases counted : (part.denominator != 1) = true
    · have step : (Reading.fraction n part).step? d mark =
          some (d, .unit n (some part) [mark]) := by
        rw [Reading.step?, isDigit_of_isUnitLetter unit, if_neg Bool.false_ne_true,
          isBlank_of_isUnitLetter unit, if_neg Bool.false_ne_true, unit, Bool.true_and,
          if_pos counted]
      rw [readAmounts_step step, readAmounts_unit marked other]
    · have step : (Reading.fraction n part).step? d mark = none := by
        rw [Reading.step?, isDigit_of_isUnitLetter unit, if_neg Bool.false_ne_true,
          isBlank_of_isUnitLetter unit, if_neg Bool.false_ne_true, unit, Bool.true_and,
          if_neg counted]
      rw [readAmounts, step]
      rfl

theorem readAmounts_fraction {n : Nat} (all : AllDigits digits)
    (stuck : ∀ part, readAmounts d (.fraction n part) text = none) (part : Fraction) :
    readAmounts d (.fraction n part) (digits ++ text) = none := by
  induction digits generalizing part with
  | nil => exact stuck part
  | cons c digits ih =>
    obtain ⟨digit, others⟩ := List.forall_mem_cons.mp all
    have step : (Reading.fraction n part).step? d c =
        (part.push? c).map fun part => (d, .fraction n part) := if_pos digit
    rw [List.cons_append, readAmounts, step]
    cases part.push? c with
    | none => rfl
    | some next => exact ih others next

theorem readAmounts_tail (proper : text = [] ∨ IsTail text) (n : Nat) :
    readAmounts d (.count n) text = none := by
  rcases proper with rfl | proper
  · rfl
  cases proper with
  | exponent proper => exact (readAmounts_exponent proper n).1
  | fraction _ all proper =>
    have step : (Reading.count n).step? d '.' = some (d, .fraction n {}) := rfl
    rw [readAmounts_step step]
    refine readAmounts_fraction all (fun part => ?_) {}
    rcases proper with rfl | proper
    · rfl
    · exact (readAmounts_exponent proper n).2 part

end Amounts

section Layouts

variable {digits text : List Char}

theorem head_of_wordLength? {unit : String} {length : Nat}
    (known : wordLength? unit = some length) :
    unit.toList.head?.any (['d', 'h', 'm', 's'].contains ·) = true := by
  unfold wordLength? at known
  split at known
  case h_9 => cases known
  all_goals decide

/-- Every layout has its own mark behind the first number. -/
theorem layouts_tail (proper : text = [] ∨ IsTail text) (digits : List Char) :
    layouts.findSome? (·.seconds? digits text) = none := by
  rcases proper with rfl | proper
  · rfl
  obtain ⟨mark, rest, rfl, marked⟩ := proper.starts
  have marks : ∀ mark ∈ ['.', 'e', 'E'], mark ∉ ['h', 'm', 's', ':'] ∧ isBlank mark = false ∧
      ['d', 'h', 'm', 's'].contains mark.toLower = false := by simp [isBlank]
  obtain ⟨apart, solid, unlike⟩ := marks mark marked
  simp only [List.mem_cons, List.not_mem_nil, or_false, not_or] at apart
  obtain ⟨noHour, noMinute, noSecond, noColon⟩ := apart
  have unit {letter : Char} (other : mark ≠ letter) (length : Nat) :
      (Layout.unit letter length).seconds? digits (mark :: rest) = none :=
    if_neg fun same => other (List.cons.inj same).1
  have hours : Layout.hoursMinutes.seconds? digits (mark :: rest) = none := by
    rw [Layout.seconds?]
    exact fun _ same => noHour (List.cons.inj same).1
  have clockSeconds : Layout.clockSeconds.seconds? digits (mark :: rest) = none := by
    rw [Layout.seconds?]
    exact fun _ _ _ _ same => noColon (List.cons.inj same).1
  have clock : Layout.clock.seconds? digits (mark :: rest) = none := by
    rw [Layout.seconds?]
    exact fun _ _ same => noColon (List.cons.inj same).1
  have words : Layout.words.seconds? digits (mark :: rest) = none := by
    rw [Layout.seconds?, List.dropWhile_cons_of_neg (by simp [solid])]
    refine Option.map_eq_none_iff.mpr (Option.eq_none_iff_forall_ne_some.mpr fun length known => ?_)
    have first := head_of_wordLength? known
    rw [String.toList_ofList, asciiLower, List.map_cons, List.head?_cons, Option.any_some,
      unlike] at first
    cases first
  simp only [layouts, List.findSome?_cons, List.findSome?_nil, unit noHour, unit noMinute,
    unit noSecond, hours, clockSeconds, clock, words]

theorem ofLayouts?_digits (filled : digits ≠ []) (all : AllDigits digits)
    (proper : text = [] ∨ IsTail text) : ofLayouts? (digits ++ text) = none := by
  have ahead : NoDigitAhead text := by
    rcases proper with rfl | proper
    · exact noDigitAhead_nil
    · obtain ⟨mark, rest, rfl, marked⟩ := proper.starts
      have noDigit : ∀ mark ∈ ['.', 'e', 'E'], mark.isDigit = false := by simp
      exact noDigitAhead_cons mark (noDigit mark marked) rest
  exact (ofLayouts?_behind ⟨digits, filled, all⟩ ahead).trans (layouts_tail proper digits)

end Layouts

section Texts

variable {value : Value} {n : Number} {digits tail text : List Char}

theorem ofAmounts?_digits (filled : digits ≠ []) (all : AllDigits digits)
    (proper : tail = [] ∨ IsTail tail) (other : digits ++ tail ≠ ['0']) :
    ofAmounts? (digits ++ tail) = none := by
  rw [ofAmounts?, if_neg other, readAmounts_count all filled]
  simp only [readAmounts_tail proper, Option.bind_fun_none]

theorem ofMillisecondText?_numeral (numeral : IsNumeral n text) :
    ofMillisecondText? text =
      match n.unsigned? with
      | some count => ofMilliseconds? count
      | none => (Binary64.read? text).bind ofRealMilliseconds? := by
  rw [← numeral.unsigned?_eq]
  rfl

theorem ofText?_numeral (numeral : IsNumeral n text) :
    ofText? text =
      match n.unsigned? with
      | some count => ofMilliseconds? count
      | none => (Binary64.read? text).bind ofRealMilliseconds? := by
  rw [← ofMillisecondText?_numeral numeral]
  by_cases zero : text = ['0']
  · have counted : ofMillisecondText? ['0'] = some .zero := by decide
    rw [zero, counted]
    rfl
  obtain ⟨negative, body, rfl, magnitude⟩ := numeral
  have stuck : ofAmounts? (signed negative body) = none ∧
      ofLayouts? (signed negative body) = none := by
    cases negative with
    | true => exact ⟨rfl, rfl⟩
    | false =>
      obtain ⟨digits, tail, filled, all, proper, spelled⟩ := magnitude.split
      change body ≠ ['0'] at zero
      change ofAmounts? body = none ∧ ofLayouts? body = none
      rw [spelled] at zero ⊢
      exact ⟨ofAmounts?_digits filled all proper zero, ofLayouts?_digits filled all proper⟩
  rw [ofText?, stuck.1, stuck.2]

theorem ofText?_enclosed (enclosed : Enclosed text) : ofText? text = none := by
  obtain ⟨opens, _, inner⟩ := enclosed
  simp only [List.mem_cons, List.not_mem_nil, or_false] at opens
  rcases opens with rfl | rfl | rfl <;> rfl

theorem ofText?_spelled {d : Duration} (spelled : Spelled value text)
    (read : ofText? text = some d) : ∃ n, value = .number n ∧ IsNumeral n text :=
  spelled.isNumeral_of_read (by decide) ofText?_enclosed read

end Texts

end SchemaCheck.Duration
