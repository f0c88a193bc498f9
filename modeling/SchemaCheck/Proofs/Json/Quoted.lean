import SchemaCheck.Json.Printer
import SchemaCheck.Json.Reader
import SchemaCheck.Proofs.Text.Hex

/-!
Strings in JSON text: what is escaped in writing is undone in reading, for every character
(`readString_quoted`).
-/

namespace SchemaCheck.Json

section Escapes

variable {rest : List Char}

theorem bytes_cons (c : Char) (rest : List Char) : bytes (c :: rest) = c.utf8Size + bytes rest := by
  suffices shifted : ∀ start, rest.foldl (fun total c => total + c.utf8Size) start =
      start + bytes rest by
    rw [bytes, List.foldl_cons, Nat.zero_add]
    exact shifted _
  unfold bytes
  induction rest with
  | nil => exact fun start => rfl
  | cons d rest ih =>
    intro start
    rw [List.foldl_cons, List.foldl_cons, ih (start + d.utf8Size), ih (0 + d.utf8Size)]
    omega

theorem length_le_bytes (text : List Char) : text.length ≤ bytes text := by
  induction text with
  | nil => exact Nat.le_refl 0
  | cons c rest ih =>
    have positive : 0 < c.utf8Size := c.utf8Size_pos
    rw [bytes_cons, List.length_cons]
    omega

/-- Four hexadecimal digits that make no half of a pair stand for a character. -/
theorem readChars_hex {c : Char} (control : c.toNat < 0x20) (rest : List Char) :
    readChars (.hex 4 0 none)
        ('0' :: '0' :: Text.hexDigit (c.toNat / 16) :: Text.hexDigit (c.toNat % 16) :: rest) =
      push c (readChars .plain rest) := by
  have zero : Text.hexDigit? '0' = some 0 := by decide
  have high := Text.hexDigit?_hexDigit (c.toNat / 16) (by omega)
  have low := Text.hexDigit?_hexDigit (c.toNat % 16) (by omega)
  have value : (((0 * 16 + 0) * 16 + 0) * 16 + c.toNat / 16) * 16 + c.toNat % 16 = c.toNat := by
    omega
  have meant : unit? c.toNat none = some (.inl c) := by
    have notLow : isLowSurrogate c.toNat = false := by simp [isLowSurrogate]; omega
    have notHigh : isHighSurrogate c.toNat = false := by simp [isHighSurrogate]; omega
    simp [unit?, notLow, notHigh]
  simp only [readChars, zero, high, low, value, meant]
  rfl

theorem readChars_simple {letter c : Char} (meant : simpleEscape? letter = some c)
    (rest : List Char) :
    readChars .plain ('\\' :: letter :: rest) = push c (readChars .plain rest) := by
  have notQuote : '\\' ≠ '"' := by decide
  simp only [readChars, if_neg notQuote, if_true, meant]

theorem readChars_escapeChar (c : Char) (rest : List Char) :
    readChars .plain (escapeChar c ++ rest) = push c (readChars .plain rest) := by
  unfold escapeChar
  -- The characters with a letter of their own come first, then the other control characters.
  split
  next quote =>
    subst quote
    exact readChars_simple (by decide) rest
  split
  next backslash =>
    subst backslash
    exact readChars_simple (by decide) rest
  split
  next newLine =>
    subst newLine
    exact readChars_simple (by decide) rest
  split
  next carriage =>
    subst carriage
    exact readChars_simple (by decide) rest
  split
  next tab =>
    subst tab
    exact readChars_simple (by decide) rest
  split
  next backspace =>
    subst backspace
    exact readChars_simple (by decide) rest
  split
  next formFeed =>
    subst formFeed
    exact readChars_simple (by decide) rest
  split
  next control =>
    have notQuote : '\\' ≠ '"' := by decide
    have noLetter : simpleEscape? 'u' = none := by decide
    have enough : ¬bytes ('0' :: '0' :: Text.hexDigit (c.toNat / 16) ::
        Text.hexDigit (c.toNat % 16) :: rest) < 4 := by
      have long := length_le_bytes ('0' :: '0' :: Text.hexDigit (c.toNat / 16) ::
        Text.hexDigit (c.toNat % 16) :: rest)
      simp only [List.length_cons] at long
      omega
    rw [← readChars_hex control rest]
    simp only [List.cons_append, List.nil_append]
    rw [readChars, if_neg notQuote, if_pos rfl, readChars, noLetter]
    simp only [ne_eq, not_true_eq_false, if_false, if_neg enough]
  next notQuote notBackslash _ _ _ _ _ visible =>
    rw [List.cons_append, List.nil_append, readChars, if_neg notQuote, if_neg notBackslash,
      if_neg visible]

theorem readChars_quoted (text rest : List Char) :
    readChars .plain (text.flatMap escapeChar ++ '"' :: rest) = .ok (text, rest) := by
  induction text with
  | nil => rfl
  | cons c text ih =>
    rw [List.flatMap_cons, List.append_assoc, readChars_escapeChar, ih]
    rfl

end Escapes

theorem readString_quoted (text : String) (rest : List Char) :
    readString (text.toList.flatMap escapeChar ++ '"' :: rest) = .ok (text, rest) := by
  rw [readString, readChars_quoted]
  simp only [String.ofList_toList]

end SchemaCheck.Json
