import SchemaCheck.Proofs.Duration.Amounts

/-!
The texts of a time that are a number with one of some endings, and what they come to. Amounts and
layouts overlap here, and either of them may find that a time is too long. Amounts give the
seconds of the ending or nothing (`ofAmounts?_ending`), and a layout is found that gives them
(`ofLayouts?_ending`), so no such text is read in another way (`ofText?_ending`).
-/

namespace SchemaCheck.Duration

open Text

section Endings

inductive ClockUnit where
  | hour
  | minute
  | second
deriving DecidableEq

namespace ClockUnit

def letter : ClockUnit → Char
  | hour => 'h'
  | minute => 'm'
  | second => 's'

def seconds : ClockUnit → Nat
  | hour => 3600
  | minute => 60
  | second => 1

def unit : ClockUnit → Unit
  | hour => .hour
  | minute => .minute
  | second => .second

end ClockUnit

inductive WordUnit where
  | day
  | hour
  | minute
  | second
deriving DecidableEq

namespace WordUnit

def name : WordUnit → String
  | day => "day"
  | hour => "hour"
  | minute => "minute"
  | second => "second"

def seconds : WordUnit → Nat
  | day => 86400
  | hour => 3600
  | minute => 60
  | second => 1

end WordUnit

structure UnitWord where
  unit : WordUnit
  plural : Bool
  letters : List Char
  spelled : asciiLower letters = (if plural then unit.name ++ "s" else unit.name).toList

/-- What stands behind the first number of a time. -/
inductive Ending where
  | letter (unit : ClockUnit)
  | hoursMinutes (b : Numeral)
  | clock (minute : Fin 60)
  | clockSeconds (minute second : Fin 60)
  | words (spaces : Nat) (word : UnitWord)

namespace Ending

def text : Ending → List Char
  | letter unit => [unit.letter]
  | hoursMinutes b => 'h' :: (b.digits ++ ['m'])
  | clock minute => ':' :: padded 2 minute
  | clockSeconds minute second => ':' :: (padded 2 minute ++ ':' :: padded 2 second)
  | words spaces word => List.replicate spaces ' ' ++ word.letters

/-- The seconds of a time with some number in front of the ending. -/
def total (n : Nat) : Ending → Nat
  | letter unit => n * unit.seconds
  | hoursMinutes b => n * 3600 + b.value * 60
  | clock minute => n * 3600 + minute * 60
  | clockSeconds minute second => n * 3600 + (minute * 60 + second)
  | words _ word => n * word.unit.seconds

end Ending

end Endings

section Letters

variable {word : UnitWord} {c : Char}

theorem isAlpha_of_toLower (letter : c.toLower.isAlpha = true) : c.isAlpha = true := by
  by_cases upper : c.isUpper = true
  · exact Bool.or_eq_true_iff.mpr (.inl upper)
  · have same : c.toLower = c := by
      refine dif_neg fun range => upper ?_
      exact decide_eq_true range
    rwa [same] at letter

theorem UnitWord.name_letters (unit : WordUnit) (plural : Bool) :
    ∀ c ∈ (if plural then unit.name ++ "s" else unit.name).toList, c.isAlpha = true := by
  apply List.all_eq_true.mp
  cases unit <;> cases plural <;> decide

theorem UnitWord.letter (word : UnitWord) : ∀ c ∈ word.letters, isUnitLetter c = true := by
  intro c member
  have lower : c.toLower ∈ asciiLower word.letters := List.mem_map_of_mem member
  rw [word.spelled] at lower
  rw [isUnitLetter, isAlpha_of_toLower (name_letters _ _ _ lower), Bool.true_or]

theorem UnitWord.long (word : UnitWord) : 3 ≤ word.letters.length := by
  have length := congrArg List.length word.spelled
  rw [asciiLower, List.length_map] at length
  rw [length]
  cases word.unit <;> cases word.plural <;> decide

theorem UnitWord.filled (word : UnitWord) : word.letters ≠ [] := by
  intro empty
  have long := word.long
  rw [empty] at long
  exact absurd long (by decide)

theorem UnitWord.solid (word : UnitWord) : ∀ c ∈ word.letters, isBlank c = false :=
  fun c member => isBlank_of_isUnitLetter (word.letter c member)

theorem UnitWord.wordLength?_letters (word : UnitWord) :
    wordLength? (String.ofList (asciiLower word.letters)) = some word.unit.seconds := by
  rw [word.spelled]
  cases word.unit <;> cases word.plural <;> rfl

/-- A name of a unit that is a word in small letters means the same unit as the word. -/
theorem Unit.names_words (unit : Unit) :
    ∀ name ∈ unit.names, ∀ length ∈ wordLength? (String.ofList (asciiLower name.toList)),
      unit.length = (length, false) := by
  cases unit <;> decide

end Letters

section Amounts

variable {a b : Numeral} {unit : Unit} {seconds : Nat}

theorem isBlank_of_mem_spaces {spaces : Nat} :
    ∀ c ∈ List.replicate spaces ' ', isBlank c = true := by
  intro c member
  rw [(List.mem_replicate.mp member).2]
  decide

def letterAmount (a : Numeral) (unit : ClockUnit) : Amount :=
  .dense a [unit.letter] (List.cons_ne_nil _ _)
    (List.forall_mem_singleton.mpr (by cases unit <;> decide))

theorem letterAmount_unit (a : Numeral) (unit : ClockUnit) :
    (letterAmount a unit).unit? = some unit.unit := by
  have named : Unit.ofName? (String.ofList [unit.letter]) = some unit.unit := by
    cases unit <;> decide
  exact named

theorem ClockUnit.length_unit (unit : ClockUnit) : unit.unit.length = (unit.seconds, false) := by
  cases unit <;> rfl

def wordAmount (a : Numeral) (spaces : Nat) (word : UnitWord) : Amount where
  count := a
  blanks := List.replicate spaces ' '
  letters := word.letters
  blank := isBlank_of_mem_spaces
  filled := word.filled
  letter := word.letter

theorem readAmounts_seconds {d : Duration} {needed : Bool} {rest : List Char} (amount : Amount)
    (known : amount.unit? = some unit) (length : unit.length = (seconds, false))
    (ahead : NoLetterAhead rest) :
    readAmounts d (.start needed) (amount.text ++ rest) =
      (ofNanoseconds? (d.nanoseconds + amount.count.value * seconds * second)).bind fun d =>
        readAmounts d (.start false) rest := by
  have whole : unit.length.2 = false := by rw [length]
  have nanoseconds : unit.nanoseconds = seconds * second := by
    rw [Unit.nanoseconds, length]
    rfl
  rw [readAmounts_known known (Unit.few_of_whole whole _) ahead, nanoseconds, Nat.mul_assoc]

theorem ofAmounts?_of_mem {c : Char} {text : List Char} (member : c ∈ text)
    (other : c.isDigit = false) : ofAmounts? text = readAmounts zero (.start true) text := by
  refine if_neg fun lone => ?_
  rw [lone, List.mem_singleton] at member
  rw [member] at other
  cases other

theorem Amount.mem_text (amount : Amount) : ∃ c ∈ amount.text, c.isDigit = false := by
  obtain ⟨c, letters, spelled⟩ := List.exists_cons_of_ne_nil amount.filled
  have member : c ∈ amount.letters := spelled ▸ List.mem_cons_self
  refine ⟨c, ?_, isDigit_of_isUnitLetter (amount.letter c member)⟩
  exact List.mem_append_right _ (List.mem_append_right _ member)

theorem ofAmounts?_seconds (amount : Amount) (known : amount.unit? = some unit)
    (length : unit.length = (seconds, false)) :
    ofAmounts? amount.text = ofSeconds? (amount.count.value * seconds) := by
  obtain ⟨c, member, other⟩ := amount.mem_text
  have read : readAmounts zero (.start true) (amount.text ++ []) = _ :=
    readAmounts_seconds amount known length noLetterAhead_nil
  rw [List.append_nil] at read
  rw [ofAmounts?_of_mem member other, read, zero, Nat.zero_add]
  exact Option.bind_fun_some _

theorem ofAmounts?_clock {rest : List Char} (a : Numeral) :
    ofAmounts? (a.digits ++ ':' :: rest) = none := by
  have stuck : ∀ n, readAmounts zero (.count n) (':' :: rest) = none := fun _ => rfl
  have member : ':' ∈ a.digits ++ ':' :: rest := List.mem_append_right _ List.mem_cons_self
  rw [ofAmounts?_of_mem member (by decide), readAmounts_count a.all a.filled]
  simp only [stuck, Option.bind_fun_none]

theorem ofAmounts?_word (a : Numeral) (spaces : Nat) (word : UnitWord) :
    ofAmounts? (wordAmount a spaces word).text = ofSeconds? (a.value * word.unit.seconds) ∨
      ofAmounts? (wordAmount a spaces word).text = none := by
  cases known : (wordAmount a spaces word).unit? with
  | some unit =>
    have length : unit.length = (word.unit.seconds, false) := by
      apply unit.names_words _ (Unit.mem_names known)
      rw [String.toList_ofList]
      exact word.wordLength?_letters
    exact .inl (ofAmounts?_seconds _ known length)
  | none =>
    -- With a capital letter the word is no name of a unit, and a layout has to read it.
    obtain ⟨c, member, other⟩ := (wordAmount a spaces word).mem_text
    have read : readAmounts zero (.start true) ((wordAmount a spaces word).text ++ []) = none :=
      readAmounts_unknown known noLetterAhead_nil
    rw [List.append_nil] at read
    exact .inr ((ofAmounts?_of_mem member other).trans read)

theorem ofAmounts?_hoursMinutes (a b : Numeral) :
    ofAmounts? (a.digits ++ 'h' :: (b.digits ++ ['m'])) =
      ofSeconds? (a.value * 3600 + b.value * 60) := by
  have minutes : ∀ d, readAmounts d (.start false) (b.digits ++ ['m']) =
      ofNanoseconds? (d.nanoseconds + b.value * 60 * second) := by
    intro d
    have read : readAmounts d (.start false) ((letterAmount b .minute).text ++ []) = _ :=
      readAmounts_seconds _ (letterAmount_unit b .minute) rfl noLetterAhead_nil
    rw [List.append_nil] at read
    exact read.trans (Option.bind_fun_some _)
  have text : a.digits ++ 'h' :: (b.digits ++ ['m']) =
      (letterAmount a .hour).text ++ (b.digits ++ ['m']) := by
    rw [Amount.text, List.append_assoc]
    rfl
  have member : 'h' ∈ a.digits ++ 'h' :: (b.digits ++ ['m']) :=
    List.mem_append_right _ List.mem_cons_self
  rw [ofAmounts?_of_mem member (by decide), text,
    readAmounts_seconds _ (letterAmount_unit a .hour) rfl (b.noLetterAhead ['m'])]
  simp only [minutes, ofNanoseconds?_bind]
  rw [ofSeconds?, Nat.add_mul, zero, Nat.zero_add]
  rfl

theorem ofAmounts?_ending (a : Numeral) (ending : Ending) :
    ofAmounts? (a.digits ++ ending.text) = ofSeconds? (ending.total a.value) ∨
      ofAmounts? (a.digits ++ ending.text) = none := by
  cases ending with
  | letter unit =>
    exact .inl (ofAmounts?_seconds _ (letterAmount_unit a unit) unit.length_unit)
  | hoursMinutes b => exact .inl (ofAmounts?_hoursMinutes a b)
  | clock minute => exact .inr (ofAmounts?_clock a)
  | clockSeconds minute second => exact .inr (ofAmounts?_clock a)
  | words spaces word => exact ofAmounts?_word a spaces word

end Amounts

section Layouts

variable {m n : Nat} {digits rest : List Char}

theorem word?_add (m n : Nat) : (word? m).bind (fun m => word? (m + n)) = word? (m + n) :=
  word?_bind fun large => word?_of_le (Nat.le_add_right_of_le large)

theorem word?_add_word (m n : Nat) :
    (word? m).bind (fun m => (word? n).bind fun n => word? (m + n)) = word? (m + n) := by
  have second : ∀ m, (word? n).bind (fun n => word? (m + n)) = word? (m + n) :=
    fun m => word?_bind fun large => word?_of_le (Nat.le_add_left_of_le large)
  simp only [second, word?_add]

theorem word?_ofSeconds (n : Nat) : (word? n).bind ofSeconds? = ofSeconds? n :=
  word?_bind ofSeconds?_of_le

theorem scaled?_numeral {length : Nat} (a : Numeral) (positive : 0 < length) :
    scaled? a.digits length = word? (a.value * length) := by
  have value : numeral a.digits = a.value := numeral_eq a.digits
  rw [scaled?, value]
  apply word?_bind
  intro large
  exact word?_of_le (Nat.le_trans large (Nat.le_mul_of_pos_right _ positive))

theorem padded_sixty (n : Fin 60) : ∃ a b, padded 2 n = [a, b] ∧ sixty? a b = some n.val := by
  have all : ∀ n : Fin 60, padded 2 n = [(n.val / 10).digitChar, (n.val % 10).digitChar] ∧
      sixty? (n.val / 10).digitChar (n.val % 10).digitChar = some n.val := by decide
  exact ⟨_, _, all n⟩

theorem ofLayouts?_behind (a : Numeral) (ahead : NoDigitAhead rest) :
    ofLayouts? (a.digits ++ rest) = layouts.findSome? (·.seconds? a.digits rest) := by
  have filled : a.digits.isEmpty = false := List.isEmpty_eq_false_iff.mpr a.filled
  rw [ofLayouts?, takeWhile_digits a.all ahead, dropWhile_digits a.all ahead, filled]
  rfl

/-- Behind more than one character the layouts with a letter only are out of question. -/
theorem findSome?_long (long : rest.length ≠ 1) :
    layouts.findSome? (·.seconds? digits rest) =
      [Layout.hoursMinutes, .clockSeconds, .clock, .words].findSome? (·.seconds? digits rest) := by
  have unit : ∀ letter length, (Layout.unit letter length).seconds? digits rest = none := by
    intro letter length
    refine if_neg fun same => long ?_
    rw [same]
    rfl
  simp only [layouts, List.findSome?_cons, unit]

theorem isDigit_of_mem_words {spaces : Nat} {word : UnitWord} :
    ∀ c ∈ List.replicate spaces ' ' ++ word.letters, c.isDigit = false := by
  intro c member
  rcases List.mem_append.mp member with space | letter
  · exact isDigit_of_isBlank (isBlank_of_mem_spaces c space)
  · exact isDigit_of_isUnitLetter (word.letter c letter)

theorem Ending.ends (ending : Ending) :
    ∃ front c, ending.text = front ++ [c] ∧ isBlank c = false := by
  cases ending with
  | letter unit => exact ⟨[], unit.letter, rfl, by cases unit <;> decide⟩
  | hoursMinutes b => exact ⟨'h' :: b.digits, 'm', rfl, by decide⟩
  | clock minute => exact ends_solid (padded_ne_nil 2 minute) (padded_solid 2 minute) [':']
  | clockSeconds minute second =>
    have ends := ends_solid (padded_ne_nil 2 second) (padded_solid 2 second)
      (':' :: padded 2 minute ++ [':'])
    rwa [List.append_assoc] at ends
  | words spaces word => exact ends_solid word.filled word.solid (List.replicate spaces ' ')

theorem noDigitAhead_ending (ending : Ending) : NoDigitAhead ending.text := by
  cases ending with
  | words spaces word =>
    exact fun c first => isDigit_of_mem_words c (List.mem_of_mem_head? first)
  | letter unit => exact noDigitAhead_cons _ (by cases unit <;> decide) _
  | _ => exact noDigitAhead_cons _ (by decide) _

theorem hoursMinutes_none (others : ∀ c ∈ rest, c.isDigit = false) :
    Layout.hoursMinutes.seconds? digits rest = none := by
  cases rest with
  | nil => rfl
  | cons c rest =>
    by_cases hours : c = 'h'
    · have nothing : (rest.dropWhile isBlank).takeWhile Char.isDigit = [] := by
        cases behind : rest.dropWhile isBlank with
        | nil => rfl
        | cons d more =>
          have member : d ∈ rest.dropWhile isBlank := behind ▸ List.mem_cons_self
          have other := others d (List.mem_cons_of_mem _ ((List.dropWhile_sublist _).mem member))
          rw [List.takeWhile_cons_of_neg (by simp [other])]
      rw [hours, Layout.seconds?]
      simp only [nothing]
      rfl
    · rw [Layout.seconds?]
      intro _ same
      exact hours (List.cons.inj same).1

theorem clock_none (apart : ':' ∉ rest) :
    Layout.clockSeconds.seconds? digits rest = none ∧ Layout.clock.seconds? digits rest = none := by
  constructor
  · rw [Layout.seconds?]
    intro _ _ _ _ same
    exact apart (same ▸ List.mem_cons_self)
  · rw [Layout.seconds?]
    intro _ _ same
    exact apart (same ▸ List.mem_cons_self)

theorem layouts_hoursMinutes (a b : Numeral) :
    layouts.findSome? (·.seconds? a.digits ('h' :: (b.digits ++ ['m']))) =
      some (word? (a.value * 3600 + b.value * 60)) := by
  have long : ('h' :: (b.digits ++ ['m'])).length ≠ 1 := by
    rw [List.length_cons, List.length_append, List.length_singleton]
    omega
  have solid := dropWhile_solid b.filled b.all.solid ['m']
  have ahead : NoDigitAhead ['m'] := noDigitAhead_cons 'm' (by decide) []
  have filled : b.digits.isEmpty = false := List.isEmpty_eq_false_iff.mpr b.filled
  rw [findSome?_long long, List.findSome?_cons, Layout.seconds?]
  simp only [solid, takeWhile_digits b.all ahead, dropWhile_digits b.all ahead, filled,
    scaled?_numeral _ (Nat.succ_pos _)]
  exact congrArg some (word?_add_word _ _)

theorem layouts_clock (a : Numeral) (minute : Fin 60) :
    layouts.findSome? (·.seconds? a.digits (':' :: padded 2 minute)) =
      some (word? (a.value * 3600 + minute * 60)) := by
  obtain ⟨x, y, spelled, sixty⟩ := padded_sixty minute
  have long : [':', x, y].length ≠ 1 := (by decide : 3 ≠ 1)
  rw [spelled, findSome?_long long]
  simp only [List.findSome?_cons, Layout.seconds?, sixty, scaled?_numeral a (Nat.succ_pos _)]
  exact congrArg some (word?_add _ _)

theorem layouts_clockSeconds (a : Numeral) (minute second : Fin 60) :
    layouts.findSome?
        (·.seconds? a.digits (':' :: (padded 2 minute ++ ':' :: padded 2 second))) =
      some (word? (a.value * 3600 + (minute * 60 + second))) := by
  obtain ⟨x, y, minutes, sixtyMinutes⟩ := padded_sixty minute
  obtain ⟨z, w, seconds, sixtySeconds⟩ := padded_sixty second
  have long : [':', x, y, ':', z, w].length ≠ 1 := (by decide : 6 ≠ 1)
  rw [minutes, seconds, List.cons_append, List.cons_append, List.nil_append,
    findSome?_long long]
  simp only [List.findSome?_cons, Layout.seconds?, sixtyMinutes, sixtySeconds,
    scaled?_numeral a (Nat.succ_pos _)]
  exact congrArg some (word?_add _ _)

theorem layouts_words (a : Numeral) (spaces : Nat) (word : UnitWord) :
    layouts.findSome? (·.seconds? a.digits (List.replicate spaces ' ' ++ word.letters)) =
      some (word? (a.value * word.unit.seconds)) := by
  have long : (List.replicate spaces ' ' ++ word.letters).length ≠ 1 := by
    have letters := word.long
    rw [List.length_append]
    omega
  have apart : ':' ∉ List.replicate spaces ' ' ++ word.letters := by
    intro member
    rcases List.mem_append.mp member with space | letter
    · exact absurd (List.mem_replicate.mp space).2 (by decide)
    · exact absurd (word.letter _ letter) (by decide)
  have letters : (List.replicate spaces ' ' ++ word.letters).dropWhile isBlank = word.letters := by
    have kept := dropWhile_solid word.filled word.solid []
    rw [List.append_nil] at kept
    rw [List.dropWhile_append_of_pos isBlank_of_mem_spaces, kept]
  have positive : 0 < word.unit.seconds := by
    cases word.unit <;> decide
  rw [findSome?_long long]
  simp only [List.findSome?_cons, hoursMinutes_none isDigit_of_mem_words, clock_none apart]
  rw [Layout.seconds?, letters, word.wordLength?_letters, Option.map_some,
    scaled?_numeral a positive]

theorem ofLayouts?_ending (a : Numeral) (ending : Ending) :
    ∃ total, ofLayouts? (a.digits ++ ending.text) = some total ∧
      total.bind ofSeconds? = ofSeconds? (ending.total a.value) := by
  rw [ofLayouts?_behind a (noDigitAhead_ending ending)]
  cases ending with
  | letter unit =>
    have found : layouts.findSome? (·.seconds? a.digits [unit.letter]) =
        some (scaled? a.digits unit.seconds) := by
      cases unit <;> rfl
    have positive : 0 < unit.seconds := by
      cases unit <;> decide
    rw [scaled?_numeral a positive] at found
    exact ⟨_, found, word?_ofSeconds _⟩
  | hoursMinutes b => exact ⟨_, layouts_hoursMinutes a b, word?_ofSeconds _⟩
  | clock minute => exact ⟨_, layouts_clock a minute, word?_ofSeconds _⟩
  | clockSeconds minute second =>
    exact ⟨_, layouts_clockSeconds a minute second, word?_ofSeconds _⟩
  | words spaces word => exact ⟨_, layouts_words a spaces word, word?_ofSeconds _⟩

/-- However the text is read, it gives the seconds of the time, or nothing if they are too many. -/
theorem ofText?_ending (a : Numeral) (ending : Ending) :
    ofText? (a.digits ++ ending.text) = ofSeconds? (ending.total a.value) := by
  obtain ⟨total, found, same⟩ := ofLayouts?_ending a ending
  rw [ofText?]
  rcases ofAmounts?_ending a ending with read | stuck
  · rw [read]
    cases given : ofSeconds? (ending.total a.value) with
    | some d => rfl
    | none =>
      -- Amounts have failed as there are too many seconds, and so does the layout.
      rw [found]
      exact same.trans given
  · rw [stuck, found]
    exact same

end Layouts

end SchemaCheck.Duration
