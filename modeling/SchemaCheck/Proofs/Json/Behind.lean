import Mathlib.Data.List.DropRight
import SchemaCheck.Proofs.Json.Shape

/-!
Blanks behind a text. They change nothing in what is read in front of them, so a text is read as
the same value with and without the blanks around it (`parse?_trimmed`).
-/

namespace SchemaCheck.Json

open Text

section Readers

variable {text rest more : List Char}

theorem bytes_append (text more : List Char) : bytes (text ++ more) = bytes text + bytes more := by
  induction text with
  | nil =>
    have nothing : bytes [] = 0 := rfl
    rw [List.nil_append, nothing, Nat.zero_add]
  | cons c text ih => rw [List.cons_append, bytes_cons, bytes_cons, ih, Nat.add_assoc]

theorem readWord_append {word : List Char} {found : Unit}
    (read : readWord word text = .ok (found, rest)) (more : List Char) :
    readWord word (text ++ more) = .ok (found, rest ++ more) := by
  obtain rfl := readWord_ok read
  clear read
  induction word with
  | nil => rfl
  | cons c word ih => rwa [List.cons_append, List.cons_append, readWord, if_pos rfl]

theorem readChars_append {state : StringState} {chars : List Char}
    (read : readChars state text = .ok (chars, rest)) (more : List Char) :
    readChars state (text ++ more) = .ok (chars, rest ++ more) := by
  have long {behind : List Char} (enough : ¬bytes behind < 4) : ¬bytes (behind ++ more) < 4 := by
    rw [bytes_append]
    omega
  fun_induction readChars state text generalizing chars
  case case2 =>
    cases read
    rfl
  case case5 ih | case6 ih | case13 ih =>
    obtain ⟨tail, inner, rfl⟩ := push_eq_ok.mp read
    simp [readChars, push_eq_ok, ih inner, *]
  case case9 notOther enough ih | case19 notOther enough ih =>
    simp [readChars, long enough, ih read, *]
  case case3 ih | case11 ih | case14 ih | case15 ih =>
    simp [readChars, ih read, *]
  all_goals cases read

theorem readString_append {held : String} (read : readString text = .ok (held, rest))
    (more : List Char) : readString (text ++ more) = .ok (held, rest ++ more) := by
  unfold readString at read ⊢
  split at read
  next inner =>
    cases read
    rw [readChars_append inner more]
  next => cases read

end Readers

section Numbers

variable {negative : Bool} {text rest more : List Char} {n : Number} {value : Nat} {start : Int}

/-- The text does not go on with anything that a number could go on with. -/
structure Apart (more : List Char) : Prop where
  noDigit : NoDigitAhead more
  noMark : ∀ c ∈ more.head?, c ∉ ['.', 'e', 'E']

theorem apart_of_spaces (spaces : ∀ c ∈ more, isSpace c = true) : Apart more := by
  have blank (c : Char) (first : c ∈ more.head?) : isBlank c = true :=
    isBlank_of_isSpace (spaces c (List.mem_of_mem_head? first))
  refine ⟨fun c first => isDigit_of_isBlank (blank c first), fun c first mark => ?_⟩
  have solid : ∀ c ∈ ['.', 'e', 'E'], isBlank c = false := by simp [isBlank]
  exact absurd (blank c first) (by simp [solid c mark])

theorem readReal_append {exponent : Int}
    (read : readReal negative value exponent text = .ok (n, rest)) (more : List Char) :
    readReal negative value exponent (text ++ more) = .ok (n, rest ++ more) := by
  rw [readReal_def] at read ⊢
  dsimp only at read ⊢
  split at read
  next x parts =>
    cases read
    rfl
  next => cases read

theorem readExponentDigits_append {down : Bool}
    (read : readExponentDigits negative down value start text = .ok (n, rest))
    (apart : Apart more) :
    readExponentDigits negative down value start (text ++ more) = .ok (n, rest ++ more) := by
  have taken := takeWhile_append_noneAhead apart.noDigit text
  have dropped := dropWhile_append_noneAhead apart.noDigit text
  unfold readExponentDigits at read ⊢
  split at read
  next => cases read
  next c behind =>
  rw [List.cons_append] at taken dropped ⊢
  dsimp only at read ⊢
  rw [taken, dropped]
  split at read
  next => cases read
  next digit =>
  rw [if_neg digit]
  split at read
  next exponent => exact readReal_append read more
  next unread =>
    split at read
    next => cases read
    next small =>
      cases read
      rw [if_neg small]

theorem exponentSign_append (filled : text ≠ []) (more : List Char) :
    exponentSign (text ++ more) = ((exponentSign text).1, (exponentSign text).2 ++ more) := by
  obtain ⟨c, behind, rfl⟩ := List.exists_cons_of_ne_nil filled
  by_cases plus : c = '+'
  · rw [plus]
    rfl
  by_cases minus : c = '-'
  · rw [minus]
    rfl
  simp [exponentSign, plus, minus]

theorem readExponent_append (read : readExponent negative value start text = .ok (n, rest))
    (apart : Apart more) :
    readExponent negative value start (text ++ more) = .ok (n, rest ++ more) := by
  have filled : text ≠ [] := by
    rintro rfl
    cases read
  rw [readExponent_eq] at read ⊢
  rw [exponentSign_append filled]
  exact readExponentDigits_append read apart

theorem Apart.noExponent {d : Char} {later : List Char} (apart : Apart (d :: later)) :
    ¬(d = 'e' ∨ d = 'E') := by
  have other := apart.noMark d rfl
  grind

theorem readFraction_append (read : readFraction negative value start text = .ok (n, rest))
    (apart : Apart more) :
    readFraction negative value start (text ++ more) = .ok (n, rest ++ more) := by
  have taken := takeWhile_append_noneAhead apart.noDigit text
  have dropped := dropWhile_append_noneAhead apart.noDigit text
  unfold readFraction at read ⊢
  dsimp only at read ⊢
  rw [taken, dropped]
  split at read
  next => cases read
  next c behind =>
  rw [List.cons_append]
  dsimp only
  split at read
  next => cases read
  next digit =>
  rw [if_neg digit]
  split at read
  next d later left =>
    rw [left, List.cons_append]
    dsimp only
    split at read
    next mark =>
      rw [if_pos mark]
      exact readExponent_append read apart
    next noMark =>
      rw [if_neg noMark]
      exact readReal_append read more
  next left =>
    have alone := readReal_append read more
    rw [left]
    cases more with
    | nil => exact alone
    | cons d later =>
      dsimp only [List.nil_append]
      rw [if_neg apart.noExponent]
      exact alone

/-- Where no point and no exponent follow, the digits are all there is of a number. -/
theorem readTail_alone (lead : Leading) (noMark : ∀ c ∈ text.head?, c ∉ ['.', 'e', 'E']) :
    readTail negative lead text =
      if lead.dropped = 0 then .ok (wholeNumber negative lead.value, text)
      else readReal negative lead.value lead.dropped text := by
  rcases text with _ | ⟨c, behind⟩
  · rfl
  have other := noMark c rfl
  simp only [List.mem_cons, List.not_mem_nil, or_false, not_or] at other
  simp [readTail, other]

theorem readTail_append {lead : Leading} (read : readTail negative lead text = .ok (n, rest))
    (apart : Apart more) : readTail negative lead (text ++ more) = .ok (n, rest ++ more) := by
  by_cases noMark : ∀ c ∈ text.head?, c ∉ ['.', 'e', 'E']
  · have ahead : ∀ c ∈ (text ++ more).head?, c ∉ ['.', 'e', 'E'] := by
      cases text with
      | nil => exact apart.noMark
      | cons c behind => exact noMark
    rw [readTail_alone lead noMark] at read
    rw [readTail_alone lead ahead]
    split at read
    next all =>
      cases read
      rw [if_pos all]
    next some =>
      rw [if_neg some]
      exact readReal_append read more
  · rcases text with _ | ⟨c, behind⟩
    · exact absurd (fun c first => nomatch first) noMark
    have mark : c = '.' ∨ c = 'e' ∨ c = 'E' := by
      simpa [or_iff_not_imp_left] using noMark
    rcases mark with rfl | rfl | rfl
    · have fraction : readFraction negative _ _ behind = .ok (n, rest) := read
      exact readFraction_append fraction apart
    · have exponent : readExponent negative _ _ behind = .ok (n, rest) := read
      exact readExponent_append exponent apart
    · have exponent : readExponent negative _ _ behind = .ok (n, rest) := read
      exact readExponent_append exponent apart

theorem readNumber_zero (ahead : NoDigitAhead text) :
    readNumber negative ('0' :: text) = readTail negative ⟨0, 1, 0⟩ text := by
  rcases text with _ | ⟨c, behind⟩
  · rfl
  have other : ¬c.isDigit = true := by simp [ahead c rfl]
  simp only [readNumber, if_neg other]

theorem readNumber_other {c : Char} (digit : c.isDigit = true) (notZero : c ≠ '0') :
    readNumber negative (c :: text) =
      readTail negative (.ofDigits 0 ((c :: text).takeWhile Char.isDigit))
        ((c :: text).dropWhile Char.isDigit) := by
  rw [readNumber]
  · rw [if_pos digit]
  · simpa using notZero

theorem readNumber_append (read : readNumber negative text = .ok (n, rest))
    (apart : Apart more) : readNumber negative (text ++ more) = .ok (n, rest ++ more) := by
  rcases text with _ | ⟨c, behind⟩
  · cases read
  by_cases zero : c = '0'
  · rw [zero] at read ⊢
    have ahead : NoDigitAhead behind := by
      rintro d first
      rcases behind with _ | ⟨e, later⟩
      · cases first
      cases first
      by_contra digit
      rw [readNumber, if_pos (by simpa using digit)] at read
      cases read
    have more : NoDigitAhead (behind ++ more) := by
      cases behind with
      | nil => exact apart.noDigit
      | cons d later => exact ahead
    rw [readNumber_zero ahead] at read
    rw [List.cons_append, readNumber_zero more]
    exact readTail_append read apart
  · have digit : c.isDigit = true := by
      by_contra other
      rw [readNumber, if_neg other] at read
      · cases read
      · simpa using zero
    have taken := takeWhile_append_noneAhead apart.noDigit (c :: behind)
    have dropped := dropWhile_append_noneAhead apart.noDigit (c :: behind)
    rw [List.cons_append] at taken dropped
    rw [readNumber_other digit zero] at read
    rw [List.cons_append, readNumber_other digit zero, taken, dropped]
    exact readTail_append read apart

end Numbers

section Values

variable {text rest more : List Char} {value : Value}

theorem readScalar_append (read : readScalar text = .ok (value, rest)) (apart : Apart more) :
    readScalar (text ++ more) = .ok (value, rest ++ more) := by
  unfold readScalar at read
  split at read
  next => cases read
  next behind =>
    obtain ⟨⟨_, left⟩, letters, made⟩ := map_eq_ok.mp read
    cases made
    exact map_eq_ok.mpr ⟨_, readWord_append letters more, rfl⟩
  next behind =>
    obtain ⟨⟨_, left⟩, letters, made⟩ := map_eq_ok.mp read
    cases made
    exact map_eq_ok.mpr ⟨_, readWord_append letters more, rfl⟩
  next behind =>
    obtain ⟨⟨_, left⟩, letters, made⟩ := map_eq_ok.mp read
    cases made
    exact map_eq_ok.mpr ⟨_, readWord_append letters more, rfl⟩
  next behind =>
    obtain ⟨⟨n, left⟩, digits, made⟩ := map_eq_ok.mp read
    cases made
    exact map_eq_ok.mpr ⟨_, readNumber_append digits apart, rfl⟩
  next behind =>
    obtain ⟨⟨held, left⟩, chars, made⟩ := map_eq_ok.mp read
    cases made
    exact map_eq_ok.mpr ⟨_, readString_append chars more, rfl⟩
  next c behind _ _ _ _ _ =>
    split at read
    next digit =>
      obtain ⟨⟨n, left⟩, digits, made⟩ := map_eq_ok.mp read
      cases made
      rw [List.cons_append, readScalar_digit digit]
      exact map_eq_ok.mpr ⟨_, readNumber_append digits apart, rfl⟩
    next => cases read

/-- Blanks in front of a mark that has been found do not matter, nor does what is behind it. -/
theorem skipSpace_append {c : Char} (left : skipSpace text = c :: rest) (more : List Char) :
    skipSpace (text ++ more) = c :: (rest ++ more) := by
  have whole : skipSpace (text ++ more) = skipSpace text ++ more := by
    rw [skipSpace, List.dropWhile_append]
    split
    next gone =>
      rw [skipSpace] at left
      rw [left] at gone
      cases gone
    next => rfl
  rw [whole, left, List.cons_append]

theorem dropClosing_append {c : Char} (left : skipSpace text = c :: rest) (more : List Char) :
    dropClosing (text ++ more) = dropClosing text ++ more := by
  rw [dropClosing, skipSpace_append left, dropClosing, left]
  rfl

theorem nextItem_append_none {first : Bool} (ends : nextItem first text = .ok none)
    (more : List Char) : nextItem first (text ++ more) = .ok none ∧
      dropClosing (text ++ more) = dropClosing text ++ more := by
  unfold nextItem at ends ⊢
  split at ends
  next => cases ends
  next c rest left =>
    refine ⟨?_, dropClosing_append left more⟩
    rw [skipSpace_append left]
    dsimp only
    split at ends
    next closing => rw [if_pos closing]
    next => grind

theorem nextItem_append_some {first : Bool} {behind : List Char}
    (goesOn : nextItem first text = .ok (some behind)) (more : List Char) :
    nextItem first (text ++ more) = .ok (some (behind ++ more)) := by
  unfold nextItem at goesOn ⊢
  split at goesOn
  next => cases goesOn
  next c rest left =>
    have inner {d : Char} {later : List Char} (left : skipSpace rest = d :: later) :=
      skipSpace_append left more
    rw [skipSpace_append left]
    grind

theorem nextKey_append_none {first : Bool} (ends : nextKey first text = .ok none)
    (more : List Char) : nextKey first (text ++ more) = .ok none ∧
      dropClosing (text ++ more) = dropClosing text ++ more := by
  unfold nextKey at ends ⊢
  split at ends
  next => cases ends
  next c rest left =>
    refine ⟨?_, dropClosing_append left more⟩
    rw [skipSpace_append left]
    dsimp only
    split at ends
    next closing => rw [if_pos closing]
    next => grind

theorem nextKey_append_some {first : Bool} {behind : List Char}
    (goesOn : nextKey first text = .ok (some behind)) (more : List Char) :
    nextKey first (text ++ more) = .ok (some (behind ++ more)) := by
  unfold nextKey at goesOn ⊢
  split at goesOn
  next => cases goesOn
  next c rest left =>
    have inner {d : Char} {later : List Char} (left : skipSpace rest = d :: later) :=
      skipSpace_append left more
    rw [skipSpace_append left]
    grind

theorem readColon_append {found : Unit} (read : readColon text = .ok (found, rest))
    (more : List Char) : readColon (text ++ more) = .ok (found, rest ++ more) := by
  unfold readColon at read ⊢
  split at read
  next => cases read
  next c behind left =>
    rw [skipSpace_append left]
    dsimp only
    split at read
    next colon =>
      cases read
      rw [if_pos colon]
    next => cases read

/-- What is to be shown of the readers: with no fewer steps and with something behind the text that
no number goes on with, they read the same. -/
structure AllExtended (fuel : Nat) : Prop where
  value (extra : Nat) {depth : Nat} {text rest more : List Char} {value : Value} : Apart more →
    readValue fuel depth text = .ok (value, rest) →
      readValue (fuel + extra) depth (text ++ more) = .ok (value, rest ++ more)
  items (extra : Nat) {depth : Nat} {first : Bool} {text rest more : List Char}
    {items : List Value} : Apart more →
    readItems fuel depth first text = .ok (items, rest) →
      readItems (fuel + extra) depth first (text ++ more) = .ok (items, rest ++ more)
  fields (extra : Nat) {depth : Nat} {first : Bool} {text rest more : List Char}
    {fields : List (String × Value)} : Apart more →
    readFields fuel depth first text = .ok (fields, rest) →
      readFields (fuel + extra) depth first (text ++ more) = .ok (fields, rest ++ more)

variable {fuel depth : Nat}

theorem extended_readValue (below : AllExtended fuel) (extra : Nat) (apart : Apart more)
    (read : readValue (fuel + 1) depth text = .ok (value, rest)) :
    readValue (fuel + extra + 1) depth (text ++ more) = .ok (value, rest ++ more) := by
  rcases readValue_cases read with ⟨behind, less, items, opens, rfl, inner, rfl⟩ |
    ⟨behind, less, fields, opens, rfl, inner, rfl⟩ | ⟨scalar, _⟩
  · exact readValue_array (skipSpace_append opens more) (below.items extra apart inner)
  · exact readValue_object (skipSpace_append opens more) (below.fields extra apart inner)
  · cases left : skipSpace text with
    | nil =>
      rw [left] at scalar
      cases scalar
    | cons c behind =>
      rw [left] at scalar
      have ahead := skipSpace_append left more
      have extended := readScalar_append scalar apart
      rw [readValue, ahead]
      split
      next same =>
        cases same
        cases scalar
      next same =>
        cases same
        cases scalar
      next => exact extended

theorem extended_readItems (below : AllExtended fuel) (extra : Nat) (apart : Apart more)
    {first : Bool} {items : List Value}
    (read : readItems (fuel + 1) depth first text = .ok (items, rest)) :
    readItems (fuel + extra + 1) depth first (text ++ more) = .ok (items, rest ++ more) := by
  rw [readItems] at read
  obtain ⟨ahead, goesOn, read⟩ := bind_eq_ok.mp read
  cases ahead with
  | none =>
    cases read
    obtain ⟨ends, dropped⟩ := nextItem_append_none goesOn more
    rw [readItems, ends, ← dropped]
    rfl
  | some behind =>
    obtain ⟨⟨item, left⟩, one, read⟩ := bind_eq_ok.mp read
    obtain ⟨⟨others, last⟩, later, read⟩ := bind_eq_ok.mp read
    cases read
    exact readItems_next (nextItem_append_some goesOn more) (below.value extra apart one)
      (below.items extra apart later)

theorem extended_readFields (below : AllExtended fuel) (extra : Nat) (apart : Apart more)
    {first : Bool} {fields : List (String × Value)}
    (read : readFields (fuel + 1) depth first text = .ok (fields, rest)) :
    readFields (fuel + extra + 1) depth first (text ++ more) = .ok (fields, rest ++ more) := by
  rw [readFields] at read
  obtain ⟨ahead, goesOn, read⟩ := bind_eq_ok.mp read
  cases ahead with
  | none =>
    cases read
    obtain ⟨ends, dropped⟩ := nextKey_append_none goesOn more
    rw [readFields, ends, ← dropped]
    rfl
  | some behind =>
    obtain ⟨⟨name, colon⟩, key, read⟩ := bind_eq_ok.mp read
    obtain ⟨⟨_, start⟩, mark, read⟩ := bind_eq_ok.mp read
    obtain ⟨⟨value, left⟩, one, read⟩ := bind_eq_ok.mp read
    obtain ⟨⟨others, last⟩, later, read⟩ := bind_eq_ok.mp read
    cases read
    exact readFields_next (nextKey_append_some goesOn more) (readString_append key more)
      (readColon_append mark more) (below.value extra apart one) (below.fields extra apart later)

theorem allExtended (fuel : Nat) : AllExtended fuel := by
  induction fuel with
  | zero => exact { value := nofun, items := nofun, fields := nofun }
  | succ fuel below =>
    refine ⟨fun extra {_ _ _ _ _} apart read => ?_, fun extra {_ _ _ _ _ _} apart read => ?_,
      fun extra {_ _ _ _ _ _} apart read => ?_⟩
    all_goals rw [Nat.add_right_comm]
    · exact extended_readValue below _ apart read
    · exact extended_readItems below _ apart read
    · exact extended_readFields below _ apart read

theorem parse?_trimmed {text : String} {content : Value} (read : parse? text = some value)
    (alone : parse? (trimmed text) = some content) : content = value := by
  obtain ⟨_, rest, split, spaces⟩ := parse?_spelled read
  obtain ⟨found, left, whole, _, rfl⟩ := parse?_eq_some read
  obtain ⟨inner, last, start, _, rfl⟩ := parse?_eq_some alone
  rw [trimmed, String.toList_ofList] at start
  have apart : Apart rest := apart_of_spaces (forall_isSpace spaces)
  obtain ⟨extra, enough⟩ :
      ∃ extra, stepsFor (trim text.toList) + extra = stepsFor text.toList := by
    have shorter := length_trim_le text.toList
    unfold stepsFor
    exact ⟨2 * (text.toList.length - (trim text.toList).length), by omega⟩
  have extended := (allExtended _).value extra apart start
  rw [enough, ← split] at extended
  have again := readValue_skipSpace _ _ (List.dropWhile_idempotent _ _) extended
  rw [whole] at again
  cases again
  rfl

end Values

end SchemaCheck.Json
