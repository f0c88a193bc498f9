import Mathlib.Data.List.TakeWhile
import SchemaCheck.Proofs.Json.Extent
import SchemaCheck.Proofs.Json.Plain
import SchemaCheck.Proofs.Text.Scan

/-!
What JSON texts look like. Without the blanks around it, a text that is read as a value starts and
ends with the marks of this kind of value, or it is a word or a number (`parse?_spelled`).
-/

namespace SchemaCheck.Json

open Text

section Numbers

inductive ExponentSign : List Char → Bool → Prop where
  | none : ExponentSign [] false
  | plus : ExponentSign ['+'] false
  | minus : ExponentSign ['-'] true

/-- The letter of an exponent, perhaps a sign, and digits. -/
inductive IsExponent : List Char → Prop where
  | intro {mark : Char} (marked : mark ∈ ['e', 'E']) {sign digits : List Char} {down : Bool}
    (signed : ExponentSign sign down) (filled : digits ≠ []) (all : AllDigits digits) :
    IsExponent (mark :: (sign ++ digits))

/-- What can stand behind the digits of a number for it to be no integer. -/
inductive IsTail : List Char → Prop where
  | exponent {text : List Char} (proper : IsExponent text) : IsTail text
  | fraction {digits text : List Char} (filled : digits ≠ []) (all : AllDigits digits)
    (proper : text = [] ∨ IsExponent text) : IsTail ('.' :: (digits ++ text))

/-- The text of a number without its sign: digits alone, which make an integer as long as it fits
into a word, or digits with something behind them. An integer does not start with a zero unless it
is zero. -/
inductive Magnitude (negative : Bool) : Number → List Char → Prop where
  | whole {digits : List Char} (filled : digits ≠ []) (all : AllDigits digits)
    (leading : digits.head? = some '0' → digits = ['0']) (fits : numeral digits < wordBound) :
    Magnitude negative (wholeNumber negative (numeral digits)) digits
  | large {digits : List Char} (filled : digits ≠ []) (all : AllDigits digits)
    (exceeds : wordBound ≤ numeral digits) (x : Binary64.Finite) :
    Magnitude negative (.real x) digits
  | mixed {digits tail : List Char} (filled : digits ≠ []) (all : AllDigits digits)
    (proper : IsTail tail) (x : Binary64.Finite) : Magnitude negative (.real x) (digits ++ tail)

variable {negative : Bool} {text rest : List Char} {n : Number} {value : Nat} {start : Int}

theorem readReal_ok {exponent : Int}
    (read : readReal negative value exponent text = .ok (n, rest)) :
    rest = text ∧ ∃ x, n = .real x := by
  rw [readReal_def] at read
  dsimp only at read
  split at read
  next x _ =>
    cases read
    exact ⟨rfl, x, rfl⟩
  next => cases read

theorem split_digits {c : Char} (digit : c.isDigit = true) (more : List Char) :
    ∃ digits, c :: more = digits ++ (c :: more).dropWhile Char.isDigit ∧
      (c :: more).takeWhile Char.isDigit = digits ∧ digits ≠ [] ∧ AllDigits digits := by
  refine ⟨_, List.takeWhile_append_dropWhile.symm, rfl, ?_, fun d => List.mem_takeWhile_imp⟩
  rw [List.takeWhile_cons_of_pos digit]
  exact List.cons_ne_nil _ _

def readExponentDigits (negative down : Bool) (value : Nat) (start : Int) (text : List Char) :
    Outcome Fault Number :=
  match text with
  | [] => stopAt .unfinishedValue []
  | c :: _ =>
    if !c.isDigit then stopNext .badNumber text
    else
      let rest := text.dropWhile Char.isDigit
      match exponentOf 0 (text.takeWhile Char.isDigit) with
      | .inl exponent =>
        readReal negative value (if down then start - exponent else start + exponent) rest
      | .inr unread =>
        if value ≠ 0 ∧ !down then stopAt .numberTooLarge (unread ++ rest)
        else .ok (.real (.signedZero negative), rest)

def exponentSign : List Char → Bool × List Char
  | '+' :: rest => (false, rest)
  | '-' :: rest => (true, rest)
  | rest => (false, rest)

theorem readExponent_eq (negative : Bool) (value : Nat) (start : Int) (text : List Char) :
    readExponent negative value start text =
      readExponentDigits negative (exponentSign text).1 value start (exponentSign text).2 := rfl

theorem exponentSign_spelled (text : List Char) : ∃ sign,
    text = sign ++ (exponentSign text).2 ∧ ExponentSign sign (exponentSign text).1 := by
  unfold exponentSign
  split
  · exact ⟨['+'], rfl, .plus⟩
  · exact ⟨['-'], rfl, .minus⟩
  · exact ⟨[], rfl, .none⟩

theorem readExponentDigits_ok {down : Bool}
    (read : readExponentDigits negative down value start text = .ok (n, rest)) :
    ∃ digits, text = digits ++ rest ∧ digits ≠ [] ∧ AllDigits digits ∧ ∃ x, n = .real x := by
  unfold readExponentDigits at read
  split at read
  next => cases read
  next c more =>
  split at read
  next => cases read
  next digit =>
  have first : c.isDigit = true := by simpa using digit
  obtain ⟨digits, spelled, taken, filled, all⟩ := split_digits first more
  dsimp only at read
  split at read
  next =>
    obtain ⟨rfl, real⟩ := readReal_ok read
    exact ⟨digits, spelled, filled, all, real⟩
  next =>
    split at read
    next => cases read
    next =>
      cases read
      exact ⟨digits, spelled, filled, all, _, rfl⟩

theorem readExponent_ok {mark : Char} (marked : mark ∈ ['e', 'E'])
    (read : readExponent negative value start text = .ok (n, rest)) :
    ∃ word, mark :: text = word ++ rest ∧ IsExponent word ∧ ∃ x, n = .real x := by
  rw [readExponent_eq] at read
  obtain ⟨sign, spelled, signed⟩ := exponentSign_spelled text
  obtain ⟨digits, behind, filled, all, real⟩ := readExponentDigits_ok read
  refine ⟨mark :: (sign ++ digits), ?_, .intro marked signed filled all, real⟩
  rw [spelled, behind, List.cons_append, List.append_assoc]

theorem readFraction_ok (read : readFraction negative value start text = .ok (n, rest)) :
    ∃ word, '.' :: text = word ++ rest ∧ IsTail word ∧ ∃ x, n = .real x := by
  unfold readFraction at read
  dsimp only at read
  split at read
  next => cases read
  next c more =>
  split at read
  next => cases read
  next digit =>
  have first : c.isDigit = true := by simpa using digit
  obtain ⟨digits, spelled, _, filled, all⟩ := split_digits first more
  rw [spelled]
  split at read
  next d behind left =>
    split at read
    next mark =>
      have marked : d ∈ ['e', 'E'] := by simpa using mark
      obtain ⟨word, later, proper, real⟩ := readExponent_ok marked read
      refine ⟨'.' :: (digits ++ word), ?_, .fraction filled all (.inr proper), real⟩
      rw [left, later, List.cons_append, List.append_assoc]
    next =>
      obtain ⟨rfl, real⟩ := readReal_ok read
      refine ⟨'.' :: (digits ++ []), ?_, .fraction filled all (.inl rfl), real⟩
      rw [left, List.append_nil, List.cons_append]
  next left =>
    obtain ⟨rfl, real⟩ := readReal_ok read
    exact ⟨'.' :: (digits ++ []), by simp [left], .fraction filled all (.inl rfl), real⟩

theorem Leading.ofDigits_cases (digits : List Char) :
    (numeral digits < wordBound ∧
      Leading.ofDigits 0 digits = ⟨numeral digits, digits.length, 0⟩) ∨
    (wordBound ≤ numeral digits ∧ (Leading.ofDigits 0 digits).dropped ≠ 0) := by
  rw [numeral_eq]
  by_cases fits : numeralFrom 0 digits < wordBound
  · exact .inl ⟨fits, leading_ofDigits 0 digits fits⟩
  · have exceeds := Nat.le_of_not_lt fits
    exact .inr ⟨exceeds, Leading.dropped_of_large ⟨0, 0, 0⟩ (by decide) exceeds⟩

/-- What follows the digits of a number, and what they are taken for. -/
theorem readTail_ok {digits : List Char} (filled : digits ≠ []) (all : AllDigits digits)
    (leading : digits.head? = some '0' → digits = ['0']) {lead : Leading}
    (taken : (numeral digits < wordBound ∧ lead = ⟨numeral digits, digits.length, 0⟩) ∨
      (wordBound ≤ numeral digits ∧ lead.dropped ≠ 0))
    (read : readTail negative lead text = .ok (n, rest)) :
    ∃ word, digits ++ text = word ++ rest ∧ Magnitude negative n word := by
  have mixed {tail : List Char} (spelled : text = tail ++ rest) (proper : IsTail tail)
      (real : ∃ x, n = .real x) :
      ∃ word, digits ++ text = word ++ rest ∧ Magnitude negative n word := by
    obtain ⟨x, rfl⟩ := real
    exact ⟨digits ++ tail, by rw [spelled, List.append_assoc], .mixed filled all proper x⟩
  have alone (read : (if lead.dropped = 0 then .ok (wholeNumber negative lead.value, text)
      else readReal negative lead.value lead.dropped text) = .ok (n, rest)) :
      ∃ word, digits ++ text = word ++ rest ∧ Magnitude negative n word := by
    rcases taken with ⟨fits, rfl⟩ | ⟨exceeds, dropped⟩
    · cases read
      exact ⟨digits, rfl, .whole filled all leading fits⟩
    · rw [if_neg dropped] at read
      obtain ⟨rfl, x, rfl⟩ := readReal_ok read
      exact ⟨digits, rfl, .large filled all exceeds x⟩
  unfold readTail at read
  split at read
  next behind =>
    obtain ⟨word, spelled, proper, real⟩ := readFraction_ok read
    exact mixed spelled proper real
  next c behind _ =>
    split at read
    next mark =>
      have marked : c ∈ ['e', 'E'] := by simpa using mark
      obtain ⟨word, spelled, proper, real⟩ := readExponent_ok marked read
      exact mixed spelled (.exponent proper) real
    next => exact alone read
  next => exact alone read

theorem readNumber_ok (read : readNumber negative text = .ok (n, rest)) :
    ∃ word, text = word ++ rest ∧ Magnitude negative n word := by
  have zero {behind : List Char} (read : readTail negative ⟨0, 1, 0⟩ behind = .ok (n, rest)) :
      ∃ word, '0' :: behind = word ++ rest ∧ Magnitude negative n word :=
    readTail_ok (List.cons_ne_nil '0' []) allDigits_zero (fun _ => rfl) (.inl ⟨by decide, rfl⟩)
      read
  unfold readNumber at read
  split at read
  next => cases read
  next behind =>
    split at read
    next c more =>
      split at read
      next => cases read
      next => exact zero read
    next => exact zero read
  next c more notZero =>
    split at read
    next digit =>
      obtain ⟨digits, spelled, taken, filled, all⟩ := split_digits digit more
      have leading : digits.head? = some '0' → digits = ['0'] := by
        intro first
        rw [← taken, List.takeWhile_cons_of_pos digit] at first
        exact absurd (Option.some.inj first) notZero
      rw [taken] at read
      rw [spelled]
      exact readTail_ok filled all leading (Leading.ofDigits_cases digits) read
    next => cases read

def IsNumberMark (c : Char) : Prop := c.isDigit = true ∨ c ∈ ".eE+-".toList

theorem IsExponent.marks (proper : IsExponent text) : ∀ c ∈ text, IsNumberMark c := by
  obtain ⟨marked, signed, _, all⟩ := proper
  have letter : ∀ c ∈ ['e', 'E'], c ∈ ".eE+-".toList := by simp
  intro c member
  rcases List.mem_cons.mp member with rfl | behind
  · exact .inr (letter c marked)
  rcases List.mem_append.mp behind with sign | digit
  · refine .inr ?_
    cases signed with
    | none => cases sign
    | plus => exact List.mem_singleton.mp sign ▸ (by decide)
    | minus => exact List.mem_singleton.mp sign ▸ (by decide)
  · exact .inl (all c digit)

theorem IsTail.marks (proper : IsTail text) : ∀ c ∈ text, IsNumberMark c := by
  cases proper with
  | exponent proper => exact proper.marks
  | fraction filled all proper =>
    intro c member
    rcases List.mem_cons.mp member with rfl | behind
    · exact .inr (by decide)
    rcases List.mem_append.mp behind with digit | later
    · exact .inl (all c digit)
    · rcases proper with rfl | proper
      · cases later
      · exact proper.marks c later

theorem Magnitude.marks (magnitude : Magnitude negative n text) :
    ∀ c ∈ text, IsNumberMark c := by
  intro c member
  cases magnitude with
  | whole filled all leading fits => exact .inl (all c member)
  | large filled all exceeds x => exact .inl (all c member)
  | mixed filled all proper x =>
    rcases List.mem_append.mp member with digit | behind
    · exact .inl (all c digit)
    · exact proper.marks c behind

theorem IsNumberMark.notBlank {c : Char} (mark : IsNumberMark c) : isBlank c = false := by
  have marks : ∀ c ∈ ".eE+-".toList, isBlank c = false := by simp [isBlank]
  exact mark.elim isBlank_of_isDigit (marks c)

end Numbers

section Values

def signed (negative : Bool) (text : List Char) : List Char :=
  if negative then '-' :: text else text

/-- The text of a value from its first character to its last, as far as it tells the kind of the
value; numbers are told in full. -/
inductive Spelled : Value → List Char → Prop where
  | null : Spelled .null "null".toList
  | bool (b : Bool) : Spelled (.bool b) (if b then "true" else "false").toList
  | number {negative : Bool} {n : Number} {text : List Char}
    (magnitude : Magnitude negative n text) : Spelled (.number n) (signed negative text)
  | string (held : String) (inner : List Char) : Spelled (.string held) ('"' :: (inner ++ ['"']))
  | array (items : List Value) (inner : List Char) :
    Spelled (.array items) ('[' :: (inner ++ [']']))
  | object (fields : List (String × Value)) (inner : List Char) :
    Spelled (.object fields) ('\x7b' :: (inner ++ ['\x7d']))

variable {text rest : List Char} {value : Value}

theorem Magnitude.signed_marks {negative : Bool} {n : Number}
    (magnitude : Magnitude negative n text) : ∀ c ∈ signed negative text, IsNumberMark c := by
  intro c member
  cases negative with
  | false => exact magnitude.marks c member
  | true =>
    rcases List.mem_cons.mp member with rfl | behind
    · exact .inr (by decide)
    · exact magnitude.marks c behind

/-- The texts of the values that are written as words. -/
def words : List (List Char) := ["null".toList, "true".toList, "false".toList]

inductive Enclosed : List Char → Prop where
  | intro {first last : Char} (opens : first ∈ ['"', '[', '\x7b'])
    (closes : last ∈ ['"', ']', '\x7d']) (inner : List Char) : Enclosed (first :: (inner ++ [last]))

def IsNumeral (n : Number) (text : List Char) : Prop :=
  ∃ negative body, text = signed negative body ∧ Magnitude negative n body

theorem Spelled.cases (spelled : Spelled value text) :
    text ∈ words ∨ (∃ n, value = .number n ∧ IsNumeral n text) ∨ Enclosed text := by
  cases spelled with
  | null => exact .inl (by decide)
  | bool b => cases b <;> exact .inl (by decide)
  | number magnitude => exact .inr (.inl ⟨_, rfl, _, _, rfl, magnitude⟩)
  | string held inner => exact .inr (.inr (.intro (by decide) (by decide) inner))
  | array items inner => exact .inr (.inr (.intro (by decide) (by decide) inner))
  | object fields inner => exact .inr (.inr (.intro (by decide) (by decide) inner))

theorem Spelled.isNumeral_of_read {Result : Type} {read : List Char → Option Result}
    {found : Result} (noWord : ∀ word ∈ words, read word = none)
    (noEnclosed : ∀ {text}, Enclosed text → read text = none) (spelled : Spelled value text)
    (given : read text = some found) : ∃ n, value = .number n ∧ IsNumeral n text := by
  rcases spelled.cases with word | number | enclosed
  · cases (noWord text word).symm.trans given
  · exact number
  · cases (noEnclosed enclosed).symm.trans given

theorem IsNumeral.marks {n : Number} (numeral : IsNumeral n text) :
    ∀ c ∈ text, IsNumberMark c := by
  obtain ⟨negative, body, rfl, magnitude⟩ := numeral
  exact magnitude.signed_marks

theorem Spelled.trim_eq (spelled : Spelled value text) : trim text = text := by
  rcases spelled.cases with word | ⟨n, _, numeral⟩ | enclosed
  · have solid : ∀ word ∈ words, ∀ c ∈ word, isBlank c = false := by simp [words, isBlank]
    exact trim_of_solid (solid text word)
  · exact trim_of_solid fun c member => (numeral.marks c member).notBlank
  · obtain ⟨opens, closes, inner⟩ := enclosed
    have one : ∀ c ∈ ['"', '[', '\x7b'], isBlank c = false := by simp [isBlank]
    have other : ∀ c ∈ ['"', ']', '\x7d'], isBlank c = false := by simp [isBlank]
    exact trim_of_ends ⟨_, _, rfl, one _ opens⟩ ⟨_ :: inner, _, rfl, other _ closes⟩

theorem Spelled.sorted (spelled : Spelled value text) : Spelled value.sorted text := by
  cases spelled with
  | null => exact .null
  | bool b => exact .bool b
  | number magnitude => exact .number magnitude
  | string held inner => exact .string held inner
  | array items inner => exact .array _ inner
  | object fields inner => exact .object _ inner

theorem readWord_ok {word : List Char} {found : Unit}
    (read : readWord word text = .ok (found, rest)) : text = word ++ rest := by
  induction word generalizing text with
  | nil =>
    cases read
    rfl
  | cons c word ih =>
    cases text with
    | nil => cases read
    | cons d text =>
      rw [readWord] at read
      split at read
      next same => rw [same, ih read, List.cons_append]
      next => cases read

theorem readChars_ok {state : StringState} {chars : List Char}
    (read : readChars state text = .ok (chars, rest)) : ∃ inner, text = inner ++ '"' :: rest := by
  have later {text : List Char} (c : Char) (ends : ∃ inner, text = inner ++ '"' :: rest) :
      ∃ inner, c :: text = inner ++ '"' :: rest := by
    obtain ⟨inner, rfl⟩ := ends
    exact ⟨c :: inner, rfl⟩
  fun_induction readChars state text generalizing chars
  -- The closing quote; a character that stands for itself or ends an escape; a character inside an
  -- escape. In all other cases reading stops.
  case case2 =>
    cases read
    exact ⟨[], rfl⟩
  case case5 ih | case6 ih | case13 ih =>
    obtain ⟨more, inner, _⟩ := push_eq_ok.mp read
    exact later _ (ih inner)
  case case3 ih | case9 ih | case11 ih | case14 ih | case15 ih | case19 ih =>
    exact later _ (ih read)
  all_goals cases read

theorem readString_ok {held : String} (read : readString text = .ok (held, rest)) :
    ∃ inner, text = inner ++ '"' :: rest := by
  unfold readString at read
  split at read
  next inner =>
    cases read
    exact readChars_ok inner
  next => cases read

theorem readScalar_ok (read : readScalar text = .ok (value, rest)) :
    ∃ word, text = word ++ rest ∧ Spelled value word := by
  unfold readScalar at read
  split at read
  next => cases read
  next behind =>
    obtain ⟨⟨_, left⟩, letters, made⟩ := map_eq_ok.mp read
    cases made
    exact ⟨"null".toList, congrArg ('n' :: ·) (readWord_ok letters), .null⟩
  next behind =>
    obtain ⟨⟨_, left⟩, letters, made⟩ := map_eq_ok.mp read
    cases made
    exact ⟨"true".toList, congrArg ('t' :: ·) (readWord_ok letters), .bool true⟩
  next behind =>
    obtain ⟨⟨_, left⟩, letters, made⟩ := map_eq_ok.mp read
    cases made
    exact ⟨"false".toList, congrArg ('f' :: ·) (readWord_ok letters), .bool false⟩
  next behind =>
    obtain ⟨⟨n, left⟩, digits, made⟩ := map_eq_ok.mp read
    cases made
    obtain ⟨word, rfl, magnitude⟩ := readNumber_ok digits
    have spelled : Spelled (.number n) (signed true word) := .number magnitude
    exact ⟨_, rfl, spelled⟩
  next behind =>
    obtain ⟨⟨held, left⟩, chars, made⟩ := map_eq_ok.mp read
    cases made
    obtain ⟨inner, rfl⟩ := readString_ok chars
    exact ⟨'"' :: (inner ++ ['"']), by simp, .string held inner⟩
  next c behind _ _ _ _ _ =>
    split at read
    next =>
      obtain ⟨⟨n, left⟩, digits, made⟩ := map_eq_ok.mp read
      cases made
      obtain ⟨word, split, magnitude⟩ := readNumber_ok digits
      have spelled : Spelled (.number n) (signed false word) := .number magnitude
      exact ⟨word, split, spelled⟩
    next => cases read

theorem skipSpace_suffix (text : List Char) : skipSpace text <:+ text := List.dropWhile_suffix _

theorem nextItem_none {first : Bool} (ends : nextItem first text = .ok none) :
    ']' :: dropClosing text <:+ text := by
  have within := skipSpace_suffix text
  unfold nextItem at ends
  unfold dropClosing
  split at ends
  next => cases ends
  next c rest left =>
    rw [left] at within ⊢
    split at ends
    next closing => exact closing ▸ within
    next => grind

theorem nextItem_some {first : Bool} {behind : List Char}
    (goesOn : nextItem first text = .ok (some behind)) : behind <:+ text := by
  have within := skipSpace_suffix text
  unfold nextItem at goesOn
  split at goesOn
  next => cases goesOn
  next c rest left =>
    rw [left] at within
    have inner := skipSpace_suffix rest
    have later := (List.suffix_cons c rest).trans within
    grind

theorem nextKey_none {first : Bool} (ends : nextKey first text = .ok none) :
    '\x7d' :: dropClosing text <:+ text := by
  have within := skipSpace_suffix text
  unfold nextKey at ends
  unfold dropClosing
  split at ends
  next => cases ends
  next c rest left =>
    rw [left] at within ⊢
    split at ends
    next closing => exact closing ▸ within
    next => grind

theorem nextKey_some {first : Bool} {behind : List Char}
    (goesOn : nextKey first text = .ok (some behind)) : behind <:+ text := by
  have within := skipSpace_suffix text
  unfold nextKey at goesOn
  split at goesOn
  next => cases goesOn
  next c rest left =>
    rw [left] at within
    have later : rest <:+ text := (List.suffix_cons c rest).trans within
    have inner {d : Char} {more : List Char} (left : skipSpace rest = d :: more) :
        more <:+ text :=
      (List.suffix_cons d more).trans ((left ▸ skipSpace_suffix rest).trans later)
    grind

theorem readColon_ok {found : Unit} (read : readColon text = .ok (found, rest)) :
    rest <:+ text := by
  have within := skipSpace_suffix text
  unfold readColon at read
  split at read
  next => cases read
  next c behind left =>
    rw [left] at within
    split at read
    next =>
      cases read
      exact (List.suffix_cons c rest).trans within
    next => cases read

/-- What is to be shown of the readers, with as many steps as they are allowed. -/
structure AllSpelled (fuel : Nat) : Prop where
  value {depth : Nat} {text rest : List Char} {value : Value} :
    readValue fuel depth text = .ok (value, rest) →
      ∃ word, skipSpace text = word ++ rest ∧ Spelled value word
  items {depth : Nat} {first : Bool} {text rest : List Char} {items : List Value} :
    readItems fuel depth first text = .ok (items, rest) → ']' :: rest <:+ text
  fields {depth : Nat} {first : Bool} {text rest : List Char} {fields : List (String × Value)} :
    readFields fuel depth first text = .ok (fields, rest) → '\x7d' :: rest <:+ text

theorem AllSpelled.behind {fuel depth : Nat} (spelled : AllSpelled fuel)
    (read : readValue fuel depth text = .ok (value, rest)) : rest <:+ text := by
  obtain ⟨word, left, _⟩ := spelled.value read
  exact (left ▸ List.suffix_append word rest).trans (skipSpace_suffix text)

theorem allSpelled (fuel : Nat) : AllSpelled fuel := by
  induction fuel with
  | zero => exact { value := nofun, items := nofun, fields := nofun }
  | succ fuel below =>
    refine ⟨fun {depth text rest value} read => ?_, fun {depth first text rest items} read => ?_,
      fun {depth first text rest fields} read => ?_⟩
    · rcases readValue_cases read with ⟨behind, less, items, opens, rfl, inner, rfl⟩ |
        ⟨behind, less, fields, opens, rfl, inner, rfl⟩ | ⟨scalar, _⟩
      · obtain ⟨front, same⟩ := below.items inner
        exact ⟨_, by rw [opens, ← same]; simp, .array items front⟩
      · obtain ⟨front, same⟩ := below.fields inner
        exact ⟨_, by rw [opens, ← same]; simp, .object fields front⟩
      · exact readScalar_ok scalar
    · rw [readItems] at read
      obtain ⟨ahead, goesOn, read⟩ := bind_eq_ok.mp read
      cases ahead with
      | none =>
        cases read
        exact nextItem_none goesOn
      | some behind =>
        obtain ⟨⟨item, left⟩, one, read⟩ := bind_eq_ok.mp read
        obtain ⟨⟨others, last⟩, later, read⟩ := bind_eq_ok.mp read
        cases read
        exact (below.items later).trans ((below.behind one).trans (nextItem_some goesOn))
    · rw [readFields] at read
      obtain ⟨ahead, goesOn, read⟩ := bind_eq_ok.mp read
      cases ahead with
      | none =>
        cases read
        exact nextKey_none goesOn
      | some behind =>
        obtain ⟨⟨name, colon⟩, key, read⟩ := bind_eq_ok.mp read
        obtain ⟨⟨_, start⟩, mark, read⟩ := bind_eq_ok.mp read
        obtain ⟨⟨value, left⟩, one, read⟩ := bind_eq_ok.mp read
        obtain ⟨⟨others, last⟩, later, read⟩ := bind_eq_ok.mp read
        cases read
        obtain ⟨inner, quoted⟩ := readString_ok key
        have name : colon <:+ behind := quoted ▸ ⟨inner ++ ['"'], by simp⟩
        exact (below.fields later).trans ((below.behind one).trans ((readColon_ok mark).trans
          (name.trans (nextKey_some goesOn))))

theorem isBlank_of_isSpace {c : Char} (space : isSpace c = true) : isBlank c = true := by
  by_contra solid
  rw [isSpace_of_notBlank (by simpa using solid)] at space
  cases space

theorem forall_isSpace (left : skipSpace text = []) : ∀ c ∈ text, isSpace c = true :=
  List.dropWhile_eq_nil_iff.mp left

/-- Without the blanks around it, the text of a value is spelled like the value. -/
theorem parse?_spelled {text : String} (read : parse? text = some value) :
    Spelled value (trim text.toList) ∧
      ∃ rest, skipSpace text.toList = trim text.toList ++ rest ∧ skipSpace rest = [] := by
  obtain ⟨found, rest, start, finish, rfl⟩ := parse?_eq_some read
  obtain ⟨word, left, spelled⟩ := (allSpelled _).value start
  have front : ∀ c ∈ text.toList.takeWhile isSpace, isBlank c = true :=
    fun c member => isBlank_of_isSpace (List.mem_takeWhile_imp member)
  have back : ∀ c ∈ rest, isBlank c = true :=
    fun c member => isBlank_of_isSpace (forall_isSpace finish c member)
  have same : trim text.toList = word := by
    have around : trim (_ ++ word ++ rest) = trim word := trim_around front back
    rwa [List.append_assoc, ← left, skipSpace, List.takeWhile_append_dropWhile,
      spelled.trim_eq] at around
  rw [same]
  exact ⟨spelled.sorted, rest, left, finish⟩

end Values

end SchemaCheck.Json
