import SchemaCheck.Proofs.Calendar.SignedYear
import SchemaCheck.Proofs.Json.Word

/-!
Numbers of seconds as texts. The readers that are tried before find marks, blanks or letters behind
their first number, and neither a number of seconds nor a number with a point or an exponent has
those (`ofText?_signed_figures`). So a written integer is read as this number of seconds, whatever
its length and sign (`ofText?_decimal`), and the instant lies so many seconds after the beginning of
1970 (`ofUnixSeconds?_cases`).

The only JSON texts that are read as instants are those of integers (`ofText?_spelled`), and these
give the number of seconds that the integer is in JSON, too (`ofText?_numeral`).
-/

namespace SchemaCheck.Calendar

open Text

section Figures

variable {c : Char} {text : List Char}

/-- A digit, or what can follow the digits of a number and belongs to it. -/
def isFigure (c : Char) : Bool := c.isDigit || ['.', 'e', 'E'].contains c

theorem isFigure_cases (figure : isFigure c = true) : c.isDigit = true ∨ c ∈ ['.', 'e', 'E'] :=
  (Bool.or_eq_true_iff.mp figure).imp_right List.contains_iff_mem.mp

theorem isFigure_of_isDigit (digit : c.isDigit = true) : isFigure c = true := by
  rw [isFigure, digit, Bool.true_or]

theorem isBlank_of_isFigure (figure : isFigure c = true) : isBlank c = false := by
  have marks : ∀ c ∈ ['.', 'e', 'E'], isBlank c = false := by simp [isBlank]
  exact (isFigure_cases figure).elim isBlank_of_isDigit (marks c)

theorem isFigure_toLower (figure : isFigure c = true) : isFigure c.toLower = true := by
  have marks : ∀ c ∈ ['.', 'e', 'E'], isFigure c.toLower = true := by simp [isFigure]
  rcases isFigure_cases figure with digit | mark
  · rw [toLower_of_isDigit digit, figure]
  · exact marks c mark

def FigureAhead (text : List Char) : Prop := ∀ c ∈ text.head?, isFigure c = true

theorem FigureAhead.of_digit (digits : DigitAhead text) : FigureAhead text :=
  fun c first => isFigure_of_isDigit (digits c first)

/-- Digits, and behind them nothing that is not part of a number. -/
def Figures (text : List Char) : Prop :=
  ∃ digits tail, text = digits ++ tail ∧ AllDigits digits ∧ ∀ c ∈ tail.head?, c ∈ ['.', 'e', 'E']

theorem figures_of_digits (all : AllDigits text) : Figures text :=
  ⟨text, [], (List.append_nil text).symm, all, nofun⟩

theorem Figures.ahead (figures : Figures text) : FigureAhead text := by
  obtain ⟨digits, tail, rfl, all, marked⟩ := figures
  have marks : ∀ c ∈ ['.', 'e', 'E'], isFigure c = true := by simp [isFigure]
  cases digits with
  | nil => exact fun c first => marks c (marked c first)
  | cons d digits =>
    intro c first
    exact isFigure_of_isDigit (all c (Option.some.inj first ▸ List.mem_cons_self))

theorem Figures.drop {count : Nat} (figures : Figures text)
    (within : count ≤ (text.takeWhile Char.isDigit).length) : Figures (text.drop count) := by
  obtain ⟨digits, tail, rfl, all, marked⟩ := figures
  have noDigit : ∀ c ∈ ['.', 'e', 'E'], c.isDigit = false := by simp
  have stop : NoDigitAhead tail := fun c first => noDigit c (marked c first)
  rw [takeWhile_digits all stop] at within
  rw [List.drop_append_of_le_length within]
  exact ⟨_, _, rfl, all.drop count, marked⟩

theorem skip?_figure (other : isFigure c = false) (ahead : FigureAhead text) :
    skip? c text = none := by
  refine skip?_none fun d first same => ?_
  rw [same, ahead d first] at other
  cases other

theorem skipBlanks_of_starts (starts : ∀ c ∈ text.head?, isBlank c = false) :
    skipBlanks text = text :=
  dropWhile_noneAhead starts

theorem skipBlanks_figure (ahead : FigureAhead text) : skipBlanks text = text :=
  skipBlanks_of_starts fun c first => isBlank_of_isFigure (ahead c first)

theorem skipSomeBlanks?_figure (ahead : FigureAhead text) : skipSomeBlanks? text = none := by
  cases text with
  | nil => rfl
  | cons c rest => rw [skipSomeBlanks?, isBlank_of_isFigure (ahead c rfl), if_neg (by decide)]

theorem weekdayNames_letters : ∀ word ∈ weekdayNames,
    (word.toList.map Char.toLower).head?.any (!isFigure ·) = true := by decide

theorem monthNames_letters : ∀ word ∈ monthNames,
    (word.toList.map Char.toLower).head?.any (!isFigure ·) = true := by decide

theorem scanWord_figure {words : List String} (ahead : FigureAhead text)
    (letters : ∀ word ∈ words, (word.toList.map Char.toLower).head?.any (!isFigure ·) = true) :
    scanWord words text = none :=
  scanWord_none letters fun c first => by rw [isFigure_toLower (ahead c first), Bool.not_true]

end Figures

section Mail

variable {text : List Char}

/-- A letter's date line has a blank behind its first number. -/
theorem ofMailDate?_none (ahead : FigureAhead text)
    (behind : ∀ found ∈ scanNumber 1 2 text, skipSomeBlanks? found.2 = none) :
    ofMailDate? text = none := by
  have solid := skipBlanks_figure ahead
  have noDay : scanWeekday (skipBlanks text) = some (none, text) := by
    rw [solid, scanWeekday, scanWord_figure ahead weekdayNames_letters]
  refine stuck_item noDay (Option.bind_eq_none_iff.mpr fun found scanned => ?_)
  rw [solid] at scanned
  refine Option.bind_eq_none_iff.mpr fun rest skipped => ?_
  rw [behind found scanned] at skipped
  cases skipped

end Mail

section Layouts

variable {text : List Char}

def Signed (text : List Char) : Prop :=
  Figures text ∨ ∃ figures, Figures figures ∧ text = '-' :: figures

theorem signed_decimal (n : Int) : Signed (decimal n) := by
  unfold decimal
  split
  · exact .inr ⟨_, figures_of_digits (digitsOf_all _), rfl⟩
  · exact .inl (figures_of_digits (digitsOf_all _))

/-- Behind what has been read there are figures. -/
def LeavesFigures {α : Type} (scanned : Option (α × List Char)) : Prop :=
  ∀ found ∈ scanned, Figures found.2

theorem LeavesFigures.map {α β : Type} {scanned : Option (α × List Char)}
    (leaves : LeavesFigures scanned) (f : α × List Char → β × List Char)
    (same : ∀ found, (f found).2 = found.2) : LeavesFigures (scanned.map f) := by
  intro made found
  obtain ⟨before, here, rfl⟩ := Option.map_eq_some_iff.mp found
  rw [same]
  exact leaves before here

theorem figures_number (figures : Figures text) (least most : Nat) :
    LeavesFigures (scanNumber least most text) := by
  intro found scanned
  obtain ⟨count, within, rest⟩ := scanNumber_behind found scanned
  rw [rest]
  exact figures.drop within

theorem Signed.solid (signed : Signed text) : skipBlanks text = text := by
  rcases signed with figures | ⟨figures, _, rfl⟩
  · exact skipBlanks_figure figures.ahead
  · rfl

theorem figures_pair (signed : Signed text) : LeavesFigures (scanPair text) := by
  rw [scanPair, signed.solid]
  rcases signed with figures | ⟨figures, _, rfl⟩
  · exact figures_number figures 1 2
  · rw [scanNumber_none Nat.one_pos 2 (noDigitAhead_cons '-' rfl figures)]
    intro found scanned
    cases scanned

theorem figures_year (signed : Signed text) : LeavesFigures (scanYear (skipBlanks text)) := by
  rw [signed.solid]
  rcases signed with figures | ⟨figures, proper, rfl⟩
  · unfold scanYear
    split
    next rest => exact absurd (figures.ahead '-' rfl) (by decide)
    next rest => exact absurd (figures.ahead '+' rfl) (by decide)
    next => exact (figures_number figures 1 4).map _ fun _ => rfl
  · exact (figures_number proper 1 _).map _ fun _ => rfl

theorem readParts_none {parts : Parts} {item : Item} {items : List Item}
    (stuck : ∀ found ∈ item.scan parts text, readParts found.1 items found.2 = none) :
    readParts parts (item :: items) text = none :=
  Option.bind_eq_none_iff.mpr stuck

theorem readParts_mark {c : Char} (other : isFigure c = false) (figures : Figures text)
    (parts : Parts) (items : List Item) : readParts parts (.mark c :: items) text = none := by
  refine readParts_none fun found scanned => ?_
  rw [Item.scan, skip?_figure other figures.ahead] at scanned
  cases scanned

theorem readParts_hyphenDate (signed : Signed text) (items : List Item) :
    readParts {} (hyphenDate ++ items) text = none := by
  have left : LeavesFigures (Item.year.scan {} text) := (figures_year signed).map _ fun _ => rfl
  refine readParts_none fun found scanned => ?_
  exact readParts_mark (by decide) (left found scanned) _ _

theorem readParts_monthName (figures : Figures text) (parts : Parts) (items : List Item) :
    readParts parts (.blanks :: .monthName :: items) text = none := by
  refine readParts_none fun found scanned => ?_
  cases scanned
  rw [skipBlanks_figure figures.ahead]
  refine readParts_none fun found scanned => ?_
  rw [Item.scan, scanWord_figure figures.ahead monthNames_letters] at scanned
  cases scanned

theorem ofLayouts?_signed (signed : Signed text) : ofLayouts? text = none := by
  have monthFirst : readParts {} [.month, .mark '/', .day, .mark '/', .year] text = none := by
    have left : LeavesFigures (Item.month.scan {} text) :=
      (figures_pair signed).map _ fun _ => rfl
    refine readParts_none fun found scanned => ?_
    exact readParts_mark (by decide) (left found scanned) _ _
  have named : readParts {} [.day, .blanks, .monthName, .blanks, .year] text = none := by
    have left : LeavesFigures (Item.day.scan {} text) :=
      (figures_pair signed).map _ fun _ => rfl
    refine readParts_none fun found scanned => ?_
    exact readParts_monthName (left found scanned) _ _
  have dateAlone := readParts_hyphenDate signed []
  rw [List.append_nil] at dateAlone
  simp only [ofLayouts?, timedLayouts, dateLayouts, List.findSome?_cons, List.findSome?_nil,
    readParts_hyphenDate signed, dateAlone, monthFirst, named, Option.bind_none, Option.map_none]
  rfl

end Layouts

section Readers

variable {text : List Char}

theorem ofTimestamp?_signed_figures (signed : Signed text) : ofTimestamp? text = none := by
  rcases signed with figures | ⟨figures, _, rfl⟩
  · refine Option.bind_eq_none_iff.mpr fun found scanned => ?_
    have left := figures_number figures 4 4 found scanned
    refine Option.bind_eq_none_iff.mpr fun rest skipped => ?_
    rw [skip?_figure (by decide) left.ahead] at skipped
    cases skipped
  · rw [ofTimestamp?, scanNumber_none (by decide) 4 (noDigitAhead_cons '-' rfl figures)]
    rfl

theorem ofMailDate?_signed_figures (signed : Signed text) : ofMailDate? text = none := by
  rcases signed with figures | ⟨figures, _, rfl⟩
  · refine ofMailDate?_none figures.ahead fun found scanned => ?_
    exact skipSomeBlanks?_figure (figures_number figures 1 2 found scanned).ahead
  · exact ofMailDate?_sign (.inl rfl) figures

/-- A text that can be a number is read as a number of seconds, if at all. -/
theorem ofText?_signed_figures (signed : Signed text) : ofText? text = ofUnixText? text := by
  rw [ofText?, ofTimestamp?_signed_figures signed, ofMailDate?_signed_figures signed,
    ofLayouts?_signed signed]
  rfl

end Readers

theorem ofUnixSeconds?_cases (seconds : Int) :
    if firstDay ≤ seconds / dayLength ∧ seconds / dayLength ≤ lastDay then
      ∃ i, ofUnixSeconds? seconds = some i ∧ i.unixSeconds = seconds ∧ i.clock.nanosecond = 0
    else ofUnixSeconds? seconds = none := by
  split
  next known =>
    have day : Date.ofDayNumber? (seconds / dayLength) = some ⟨_, known.1, known.2⟩ :=
      dif_pos known
    refine ⟨_, Option.bind_eq_some_iff.mpr ⟨_, day, dif_pos (by decide)⟩, ?_, rfl⟩
    unfold Instant.unixSeconds dayLength
    dsimp only
    omega
  next unknown =>
    have day : Date.ofDayNumber? (seconds / dayLength) = none := dif_neg unknown
    rw [ofUnixSeconds?, Instant.ofUnix?, day]
    rfl

/-- The calendar ends long before the signed words do. -/
theorem ofUnixSeconds?_large {seconds : Int} (large : isSignedWord seconds = false) :
    ofUnixSeconds? seconds = none := by
  have cases := ofUnixSeconds?_cases seconds
  split at cases
  next known =>
    have word : isSignedWord seconds = true := by
      have bound : (signedBound : Int) = 9223372036854775808 := by decide
      unfold firstDay lastDay dayLength at known
      simp only [isSignedWord, bound, Bool.and_eq_true, decide_eq_true_eq]
      omega
    rw [word] at large
    cases large
  next => exact cases

theorem ofUnixText?_eq (text : List Char) :
    ofUnixText? text = (integer? text).bind ofUnixSeconds? := by
  rw [ofUnixText?]
  cases integer? text with
  | none => rfl
  | some n =>
    rw [Option.filter_some]
    split
    · rfl
    next large => exact (ofUnixSeconds?_large (by simpa using large)).symm

theorem ofText?_decimal (n : Int) : ofText? (decimal n) = ofUnixSeconds? n := by
  rw [ofText?_signed_figures (signed_decimal n), ofUnixText?_eq, integer?_decimal]
  rfl

section Spelled

open Json

variable {value : Value} {n : Number} {text : List Char}

theorem signed_of_numeral (numeral : IsNumeral n text) : Signed text := by
  obtain ⟨negative, body, rfl, magnitude⟩ := numeral
  have figures : Figures body := by
    obtain ⟨digits, tail, _, all, proper, rfl⟩ := magnitude.split
    refine ⟨digits, tail, rfl, all, fun c first => ?_⟩
    rcases proper with rfl | proper
    · cases first
    · obtain ⟨mark, rest, rfl, marked⟩ := proper.starts
      exact Option.some.inj first ▸ marked
  cases negative with
  | false => exact .inl figures
  | true => exact .inr ⟨body, figures, rfl⟩

theorem ofText?_numeral (numeral : IsNumeral n text) (other : text ≠ ['-', '0']) :
    ofText? text = n.signed?.bind ofUnixSeconds? := by
  rw [ofText?_signed_figures (signed_of_numeral numeral), ofUnixText?, numeral.signed?_eq other]

theorem ofText?_enclosed (enclosed : Enclosed text) : ofText? text = none := by
  obtain ⟨opens, _, inner⟩ := enclosed
  simp only [List.mem_cons, List.not_mem_nil, or_false] at opens
  rcases opens with rfl | rfl | rfl <;> rfl

theorem ofText?_spelled {i : Instant} (spelled : Spelled value text)
    (read : ofText? text = some i) : ∃ n, value = .number n ∧ IsNumeral n text :=
  spelled.isNumeral_of_read (by decide) ofText?_enclosed read

end Spelled

end SchemaCheck.Calendar
