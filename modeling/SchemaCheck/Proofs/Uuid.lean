import SchemaCheck.Proofs.Text.Hex
import SchemaCheck.Uuid

/-!
Identifiers and their texts. There are two digits for each byte, and an identifier is read from a
text just if this is a spelling of its 32 digits (`ofText?_eq_some_iff`). The canonical text is the
spelling in groups and in lower case (`render_eq`).
-/

namespace SchemaCheck.Uuid

open Text

section Bytes

variable {digits : List Char} {bytes : List UInt8}

/-- Two hexadecimal digits in either case for each byte. -/
inductive Digits : List Char → List UInt8 → Prop where
  | nil : Digits [] []
  | cons {a b : Char} {digits : List Char} {byte : UInt8} {bytes : List UInt8}
    (high : hexDigit? a = some (byte.toNat / 16)) (low : hexDigit? b = some (byte.toNat % 16))
    (rest : Digits digits bytes) : Digits (a :: b :: digits) (byte :: bytes)

theorem byte_halves {high low : Nat} (highSmall : high < 16) (lowSmall : low < 16) :
    (UInt8.ofNat (high * 16 + low)).toNat / 16 = high ∧
      (UInt8.ofNat (high * 16 + low)).toNat % 16 = low := by
  have whole : (UInt8.ofNat (high * 16 + low)).toNat = high * 16 + low :=
    UInt8.toNat_ofNat_of_lt' (by rw [UInt8.size]; omega)
  rw [whole]
  omega

theorem join_halves (byte : UInt8) :
    UInt8.ofNat (byte.toNat / 16 * 16 + byte.toNat % 16) = byte := by
  have whole : byte.toNat / 16 * 16 + byte.toNat % 16 = byte.toNat := by omega
  rw [whole, UInt8.ofNat_toNat]

theorem bytesOfDigits?_eq_some_iff : bytesOfDigits? digits = some bytes ↔ Digits digits bytes := by
  constructor
  · intro read
    induction digits using bytesOfDigits?.induct generalizing bytes with
    | case1 =>
      obtain rfl := Option.some.inj read
      exact .nil
    | case2 a b rest ih =>
      simp only [bytesOfDigits?, Option.bind_eq_bind, Option.bind_eq_some_iff] at read
      obtain ⟨high, isHigh, low, isLow, more, readMore, same⟩ := read
      obtain rfl := Option.some.inj same
      obtain ⟨highHalf, lowHalf⟩ :=
        byte_halves (hexDigit_of_hexDigit? isHigh).1 (hexDigit_of_hexDigit? isLow).1
      exact .cons (by rw [highHalf, isHigh]) (by rw [lowHalf, isLow]) (ih readMore)
    | case3 other notEmpty notTwo =>
      unfold bytesOfDigits? at read
      split at read
      · exact absurd rfl notEmpty
      · exact absurd rfl (notTwo _ _ _)
      · cases read
  · intro spelled
    induction spelled with
    | nil => rfl
    | cons high low rest ih =>
      simp only [bytesOfDigits?, high, low, ih, Option.bind_eq_bind, Option.bind_some, join_halves]
      rfl

theorem Digits.length_eq (spelled : Digits digits bytes) : digits.length = 2 * bytes.length := by
  induction spelled with
  | nil => rfl
  | cons _ _ _ ih =>
    simp only [List.length_cons, ih]
    omega

theorem Digits.isHexDigit (spelled : Digits digits bytes) :
    ∀ c ∈ digits, isHexDigit c = true := by
  induction spelled with
  | nil => exact nofun
  | cons high low _ ih =>
    exact List.forall_mem_cons.mpr ⟨isHexDigit_iff.mpr ⟨_, high⟩,
      List.forall_mem_cons.mpr ⟨isHexDigit_iff.mpr ⟨_, low⟩, ih⟩⟩

theorem exists_digits {count : Nat} (length : digits.length = 2 * count)
    (all : ∀ c ∈ digits, isHexDigit c = true) :
    ∃ bytes, bytes.length = count ∧ Digits digits bytes := by
  induction count generalizing digits with
  | zero =>
    obtain rfl := List.eq_nil_of_length_eq_zero length
    exact ⟨[], rfl, .nil⟩
  | succ count ih =>
    match digits, length with
    | a :: b :: rest, length =>
      obtain ⟨hexA, others⟩ := List.forall_mem_cons.mp all
      obtain ⟨hexB, others⟩ := List.forall_mem_cons.mp others
      obtain ⟨high, isHigh⟩ := isHexDigit_iff.mp hexA
      obtain ⟨low, isLow⟩ := isHexDigit_iff.mp hexB
      obtain ⟨bytes, many, spelled⟩ := ih (by simpa [Nat.mul_add] using length) others
      obtain ⟨highHalf, lowHalf⟩ :=
        byte_halves (hexDigit_of_hexDigit? isHigh).1 (hexDigit_of_hexDigit? isLow).1
      exact ⟨.ofNat (high * 16 + low) :: bytes, by rw [List.length_cons, many],
        .cons (by rw [highHalf, isHigh]) (by rw [lowHalf, isLow]) spelled⟩

theorem Digits.lower (spelled : Digits digits bytes) :
    bytes.flatMap byteDigits = asciiLower digits := by
  induction spelled with
  | nil => rfl
  | cons high low _ ih =>
    rw [List.flatMap_cons, ih, byteDigits, (hexDigit_of_hexDigit? high).2,
      (hexDigit_of_hexDigit? low).2]
    rfl

theorem digits_flatMap (bytes : List UInt8) : Digits (bytes.flatMap byteDigits) bytes := by
  induction bytes with
  | nil => exact .nil
  | cons byte bytes ih =>
    have small := byte.toNat_lt
    exact .cons (hexDigit?_hexDigit _ (by omega)) (hexDigit?_hexDigit _ (by omega)) ih

theorem ofDigits?_eq_some_iff {id : Uuid} :
    ofDigits? digits = some id ↔ Digits digits id.bytes := by
  obtain ⟨bytes, sixteen⟩ := id
  simp only [ofDigits?, Option.bind_eq_bind, Option.bind_eq_some_iff, bytesOfDigits?_eq_some_iff]
  constructor
  · rintro ⟨found, spelled, same⟩
    split at same
    next =>
      injection same with same
      injection same with same
      exact same ▸ spelled
    next => cases same
  · intro spelled
    exact ⟨bytes, spelled, dif_pos sixteen⟩

end Bytes

section Groups

/-- Digits with hyphens behind the first 8, 12, 16 and 20 of them. -/
def hyphenated (digits : List Char) : List Char :=
  digits.take 8 ++ '-' :: ((digits.drop 8).take 4 ++ '-' :: ((digits.drop 12).take 4 ++
    '-' :: ((digits.drop 16).take 4 ++ '-' :: digits.drop 20)))

variable {digits text : List Char} {id : Uuid}

section Append

variable {a b c d e : List Char} (aLength : a.length = 8) (bLength : b.length = 4)
  (cLength : c.length = 4) (dLength : d.length = 4)

include aLength bLength cLength dLength

theorem hyphenated_append : hyphenated (a ++ b ++ c ++ d ++ e) =
    a ++ '-' :: (b ++ '-' :: (c ++ '-' :: (d ++ '-' :: e))) := by
  simp [hyphenated, List.drop_append, List.drop_of_length_le, aLength, bLength, cLength, dLength]

theorem ofGroups?_append (eLength : e.length = 12) :
    ofGroups? (a ++ '-' :: (b ++ '-' :: (c ++ '-' :: (d ++ '-' :: e)))) =
      ofDigits? (a ++ b ++ c ++ d ++ e) := by
  simp [ofGroups?, List.drop_append, List.drop_of_length_le, aLength, bLength, cLength,
    dLength, eLength]

end Append

theorem drop_group (text : List Char) (place count : Nat) :
    text.drop place = (text.drop place).take count ++ text.drop (place + count) := by
  rw [← List.drop_drop, List.take_append_drop]

theorem drop_hyphen {place : Nat} (hyphen : text[place]? = some '-') :
    text.drop place = '-' :: text.drop (place + 1) := by
  obtain ⟨inside, same⟩ := List.getElem?_eq_some_iff.mp hyphen
  rw [List.drop_eq_getElem_cons inside, same]

theorem length_hyphenated (length : digits.length = 32) : (hyphenated digits).length = 36 := by
  simp [hyphenated, length]

theorem ofGroups?_hyphenated (length : digits.length = 32) :
    ofGroups? (hyphenated digits) = ofDigits? digits := by
  have groups : digits = digits.take 8 ++ (digits.drop 8).take 4 ++ (digits.drop 12).take 4 ++
      (digits.drop 16).take 4 ++ digits.drop 20 := by
    rw [List.append_assoc, List.append_assoc, List.append_assoc, ← drop_group digits 16 4,
      ← drop_group digits 12 4, ← drop_group digits 8 4, List.take_append_drop]
  conv =>
    rhs
    rw [groups]
  rw [hyphenated]
  exact ofGroups?_append (by simp [length]) (by simp [length]) (by simp [length])
    (by simp [length]) (by simp [length])

theorem split_groups (h8 : text[8]? = some '-') (h13 : text[13]? = some '-')
    (h18 : text[18]? = some '-') (h23 : text[23]? = some '-') :
    text = text.take 8 ++ '-' :: ((text.drop 9).take 4 ++ '-' :: ((text.drop 14).take 4 ++
      '-' :: ((text.drop 19).take 4 ++ '-' :: text.drop 24))) := by
  conv =>
    lhs
    rw [← List.take_append_drop 8 text, drop_hyphen h8, drop_group text 9 4, drop_hyphen h13,
      drop_group text 14 4, drop_hyphen h18, drop_group text 19 4, drop_hyphen h23]

theorem ofGroups?_eq_some_iff : ofGroups? text = some id ↔
    ∃ digits, text = hyphenated digits ∧ Digits digits id.bytes := by
  constructor
  · intro read
    simp only [ofGroups?] at read
    split at read
    next shaped =>
      -- The digits are what the groups come to, so that they make the text again.
      obtain ⟨length, hyphens⟩ := shaped
      simp only [List.all_cons, List.all_nil, Bool.and_true, Bool.and_eq_true,
        beq_iff_eq] at hyphens
      obtain ⟨h8, h13, h18, h23⟩ := hyphens
      refine ⟨_, ?_, ofDigits?_eq_some_iff.mp read⟩
      rw [hyphenated_append (by simp [length]) (by simp [length]) (by simp [length])
        (by simp [length])]
      exact split_groups h8 h13 h18 h23
    next => cases read
  · rintro ⟨digits, rfl, spelled⟩
    have length : digits.length = 32 := by rw [spelled.length_eq, id.length_eq]
    rw [ofGroups?_hyphenated length, ofDigits?_eq_some_iff]
    exact spelled

theorem mem_hyphenated {c : Char} (member : c ∈ hyphenated digits) : c = '-' ∨ c ∈ digits := by
  have left : ∀ place, c ∈ digits.drop place → c ∈ digits := fun _ => List.mem_of_mem_drop
  have inside : ∀ place count, c ∈ (digits.drop place).take count → c ∈ digits :=
    fun place _ among => left place (List.mem_of_mem_take among)
  simp only [hyphenated, List.mem_append, List.mem_cons] at member
  rcases member with a | rfl | b | rfl | c | rfl | d | rfl | e
  · exact .inr (List.mem_of_mem_take a)
  · exact .inl rfl
  · exact .inr (inside _ _ b)
  · exact .inl rfl
  · exact .inr (inside _ _ c)
  · exact .inl rfl
  · exact .inr (inside _ _ d)
  · exact .inl rfl
  · exact .inr (left _ e)

end Groups

section Spellings

variable {digits text : List Char} {id : Uuid}

/-- What a text may look like that has some digits: they stand alone or in groups, and the groups
may stand in braces or behind the name of a resource. -/
inductive Spelling (digits : List Char) : List Char → Prop where
  | plain : Spelling digits digits
  | grouped : Spelling digits (hyphenated digits)
  | braced : Spelling digits ('\x7b' :: (hyphenated digits ++ ['\x7d']))
  | named {front : List Char} (name : asciiLower front = namePrefix) :
    Spelling digits (front ++ hyphenated digits)

theorem length_name {front : List Char} (name : asciiLower front = namePrefix) :
    front.length = 9 := by
  rw [← List.length_map, ← asciiLower, name]
  rfl

theorem take_name {front : List Char} (name : asciiLower front = namePrefix) (rest : List Char) :
    asciiLower ((front ++ rest).take 9) = namePrefix := by
  rw [← length_name name, List.take_left, name]

theorem ofText?_spelling (spelling : Spelling digits text) (length : digits.length = 32) :
    ofText? text = ofDigits? digits := by
  have long := length_hyphenated length
  cases spelling with
  | plain => rw [ofText?, if_pos length]
  | grouped => rw [ofText?, if_neg (by omega), if_pos long, ofGroups?_hyphenated length]
  | braced =>
    have whole : ('\x7b' :: (hyphenated digits ++ ['\x7d'])).length = 38 := by
      rw [List.length_cons, List.length_append, long, List.length_singleton]
    have braces : ('\x7b' :: (hyphenated digits ++ ['\x7d'])).getLast? = some '\x7d' := by
      rw [← List.cons_append, List.getLast?_concat]
    have inner : (('\x7b' :: (hyphenated digits ++ ['\x7d'])).drop 1).take 36 =
        hyphenated digits := by
      rw [List.drop_succ_cons, List.drop_zero, ← long, List.take_left]
    rw [ofText?, if_neg (by omega), if_neg (by omega), if_pos ⟨whole, rfl, braces⟩, inner,
      ofGroups?_hyphenated length]
  | @named front name =>
    have whole : (front ++ hyphenated digits).length = 45 := by
      rw [List.length_append, length_name name, long]
    have rest : (front ++ hyphenated digits).drop 9 = hyphenated digits := by
      rw [← length_name name, List.drop_left]
    rw [ofText?, if_neg (by omega), if_neg (by omega), if_neg (by omega),
      if_pos ⟨whole, take_name name _⟩, rest, ofGroups?_hyphenated length]

/-- Where neither a brace nor the name of a resource is ahead, the digits stand alone or in
groups. -/
theorem spelling_iff_bare (noBrace : text.head? ≠ some '\x7b')
    (noName : asciiLower (text.take 9) ≠ namePrefix) :
    Spelling digits text ↔ text = digits ∨ text = hyphenated digits := by
  constructor
  · intro spelling
    cases spelling with
    | plain => exact .inl rfl
    | grouped => exact .inr rfl
    | braced => exact absurd rfl noBrace
    | named name => exact absurd (take_name name _) noName
  · rintro (rfl | rfl)
    · exact .plain
    · exact .grouped

theorem exists_braced {inner : Nat} (length : text.length = inner + 2)
    (first : text.head? = some '\x7b') (last : text.getLast? = some '\x7d') :
    text = '\x7b' :: ((text.drop 1).take inner ++ ['\x7d']) := by
  obtain ⟨front, rfl⟩ := List.getLast?_eq_some_iff.mp last
  rw [List.length_append, List.length_singleton] at length
  cases front with
  | nil => cases length
  | cons c front =>
    obtain rfl := Option.some.inj first
    have fits : front.length = inner := Nat.succ.inj (Nat.succ.inj length)
    rw [List.cons_append, List.drop_succ_cons, List.drop_zero, List.take_left' fits]

theorem exists_spelling (read : ofText? text = some id) :
    ∃ digits, Spelling digits text ∧ Digits digits id.bytes := by
  unfold ofText? at read
  split at read
  next => exact ⟨text, .plain, ofDigits?_eq_some_iff.mp read⟩
  split at read
  next =>
    obtain ⟨digits, rfl, spelled⟩ := ofGroups?_eq_some_iff.mp read
    exact ⟨digits, .grouped, spelled⟩
  split at read
  next shaped =>
    obtain ⟨digits, inner, spelled⟩ := ofGroups?_eq_some_iff.mp read
    rw [exists_braced shaped.1 shaped.2.1 shaped.2.2, inner]
    exact ⟨digits, .braced, spelled⟩
  split at read
  next shaped =>
    obtain ⟨digits, rest, spelled⟩ := ofGroups?_eq_some_iff.mp read
    rw [← List.take_append_drop 9 text, rest]
    exact ⟨digits, .named shaped.2, spelled⟩
  next => cases read

/-- An identifier is read from the spellings of its digits, and from nothing else. -/
theorem ofText?_eq_some_iff : ofText? text = some id ↔
    ∃ digits, Spelling digits text ∧ Digits digits id.bytes := by
  refine ⟨exists_spelling, ?_⟩
  rintro ⟨digits, spelling, spelled⟩
  have length : digits.length = 32 := by rw [spelled.length_eq, id.length_eq]
  rw [ofText?_spelling spelling length, ofDigits?_eq_some_iff]
  exact spelled

theorem render_eq (spelled : Digits digits id.bytes) :
    id.render = hyphenated (asciiLower digits) := by
  rw [← spelled.lower]
  rfl

theorem render_solid (id : Uuid) : ∀ c ∈ id.render, isBlank c = false := by
  intro c member
  rcases mem_hyphenated member with rfl | digit
  · rfl
  · exact isBlank_of_isHexDigit ((digits_flatMap id.bytes).isHexDigit c digit)

theorem ofText?_render (id : Uuid) : ofText? id.render = some id :=
  ofText?_eq_some_iff.mpr ⟨_, .grouped, digits_flatMap id.bytes⟩

end Spellings

end SchemaCheck.Uuid
