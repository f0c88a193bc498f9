import Mathlib.Tactic.Common
import SchemaCheck.Base64

/-!
Bytes in Base64, written and read again. The alphabet of a variant has a character for each of 64
values and none for the padding (`Variant.Proper`), so a variant reads a text as some bytes just if
it writes them so (`Variant.decode?_eq_some_iff`). Where two variants read one text, they read the
same bytes (`Variant.decode?_agree`). Hence it does not matter which of them is tried first
(`decodeAny?_eq_some_iff`).
-/

namespace SchemaCheck.Base64

/-- The variants that are read, in the order in which they are tried. -/
def variants : List Variant := [standard, urlSafe, urlSafeUnpadded]

namespace Variant

/-- The two characters of its own have their values, and the padding has none. -/
structure Proper (variant : Variant) : Prop where
  sixtyTwo : variant.value? variant.sixtyTwo = some 62
  sixtyThree : variant.value? variant.sixtyThree = some 63
  pad : variant.value? '=' = none

theorem proper_of_mem {variant : Variant} (member : variant ∈ variants) : variant.Proper := by
  have all : ∀ variant ∈ variants, variant.value? variant.sixtyTwo = some 62 ∧
      variant.value? variant.sixtyThree = some 63 ∧ variant.value? '=' = none := by
    simp only [variants, List.forall_mem_cons]
    decide
  obtain ⟨sixtyTwo, sixtyThree, pad⟩ := all variant member
  exact ⟨sixtyTwo, sixtyThree, pad⟩

section Symbols

variable {variant other : Variant} {m n : Nat} {c : Char}

theorem value?_plain (plain : n < 62) (read : other.value? c = some n) :
    variant.value? c = some n := by
  unfold value? at read ⊢
  by_cases upper : 'A' ≤ c ∧ c ≤ 'Z'
  · rwa [if_pos upper] at read ⊢
  by_cases lower : 'a' ≤ c ∧ c ≤ 'z'
  · rwa [if_neg upper, if_pos lower] at read ⊢
  by_cases digit : '0' ≤ c ∧ c ≤ '9'
  · rwa [if_neg upper, if_neg lower, if_pos digit] at read ⊢
  · rw [if_neg upper, if_neg lower, if_neg digit] at read
    split_ifs at read
    all_goals
      injection read
      omega

theorem value?_symbol (proper : variant.Proper) (small : n < 64) :
    variant.value? (variant.symbol n) = some n := by
  by_cases plain : n < 62
  · have table : ∀ m < 62, standard.value? (standard.symbol m) = some m := by decide
    have same : variant.symbol n = standard.symbol n := by
      unfold symbol
      split_ifs <;> rfl
    rw [same]
    exact value?_plain plain (table n plain)
  · have last : n = 62 ∨ n = 63 := by omega
    rcases last with rfl | rfl
    · exact proper.sixtyTwo
    · exact proper.sixtyThree

theorem symbol_of_value? (read : variant.value? c = some n) :
    n < 64 ∧ variant.symbol n = c := by
  have whole := Char.ofNat_toNat c
  unfold value? at read
  split_ifs at read with upper lower digit sixtyTwo sixtyThree
  all_goals injection read with read
  · have range : 65 ≤ c.toNat ∧ c.toNat ≤ 90 := upper
    have back : n + 65 = c.toNat := by omega
    rw [symbol, if_pos (by omega), back]
    exact ⟨by omega, whole⟩
  · have range : 97 ≤ c.toNat ∧ c.toNat ≤ 122 := lower
    have back : n - 26 + 97 = c.toNat := by omega
    rw [symbol, if_neg (by omega), if_pos (by omega), back]
    exact ⟨by omega, whole⟩
  · have range : 48 ≤ c.toNat ∧ c.toNat ≤ 57 := digit
    have back : n - 52 + 48 = c.toNat := by omega
    rw [symbol, if_neg (by omega), if_neg (by omega), if_pos (by omega), back]
    exact ⟨by omega, whole⟩
  · rw [← read]
    exact ⟨by decide, sixtyTwo.symm⟩
  · rw [← read]
    exact ⟨by decide, sixtyThree.symm⟩

theorem symbol_ne_pad (proper : variant.Proper) (small : n < 64) : variant.symbol n ≠ '=' := by
  intro same
  have read := value?_symbol proper small
  rw [same, proper.pad] at read
  cases read

/-- The characters of their own do not stand for different values in two alphabets. -/
def Compatible (variant other : Variant) : Prop :=
  variant.sixtyTwo ≠ other.sixtyThree ∧ variant.sixtyThree ≠ other.sixtyTwo

theorem compatible_of_mem (member : variant ∈ variants) (also : other ∈ variants) :
    variant.Compatible other := by
  have all : ∀ variant ∈ variants, ∀ other ∈ variants,
      variant.sixtyTwo ≠ other.sixtyThree ∧ variant.sixtyThree ≠ other.sixtyTwo := by
    simp only [variants, List.forall_mem_cons]
    decide
  exact all variant member other also

theorem value?_agree (compatible : variant.Compatible other) (read : variant.value? c = some m)
    (also : other.value? c = some n) : m = n := by
  by_cases plain : m < 62
  · rw [value?_plain plain read] at also
    exact Option.some.inj also
  by_cases plain : n < 62
  · rw [value?_plain plain also] at read
    exact (Option.some.inj read).symm
  obtain ⟨mSmall, mSymbol⟩ := symbol_of_value? read
  obtain ⟨nSmall, nSymbol⟩ := symbol_of_value? also
  have same := mSymbol.trans nSymbol.symm
  have mLast : m = 62 ∨ m = 63 := by omega
  have nLast : n = 62 ∨ n = 63 := by omega
  rcases mLast with rfl | rfl <;> rcases nLast with rfl | rfl
  · rfl
  · exact absurd same compatible.1
  · exact absurd same compatible.2
  · rfl

end Symbols

section Groups

variable {variant other : Variant} {a b c d : Char} {bytes more : List UInt8}

theorem toNat_byte {n : Nat} (small : n < 256) : (UInt8.ofNat n).toNat = n :=
  UInt8.toNat_ofNat_of_lt' small

theorem lastByte?_encode (proper : variant.Proper) (x : UInt8) :
    variant.lastByte? (variant.symbol (x.toNat / 4)) (variant.symbol (x.toNat % 4 * 16)) =
      some [x] := by
  have small := x.toNat_lt
  rw [lastByte?, value?_symbol proper (by omega), value?_symbol proper (by omega)]
  have zero : x.toNat % 4 * 16 % 16 = 0 := by omega
  have byte : x.toNat / 4 * 4 + x.toNat % 4 * 16 / 16 = x.toNat := by omega
  simp only [Option.bind_eq_bind, Option.bind_some, if_pos zero, byte, UInt8.ofNat_toNat]
  rfl

theorem lastByte?_some (read : variant.lastByte? a b = some bytes) :
    ∃ x : UInt8, bytes = [x] ∧
      a = variant.symbol (x.toNat / 4) ∧ b = variant.symbol (x.toNat % 4 * 16) := by
  simp only [lastByte?, Option.bind_eq_bind, Option.bind_eq_some_iff] at read
  obtain ⟨x, first, y, second, read⟩ := read
  obtain ⟨xSmall, rfl⟩ := symbol_of_value? first
  obtain ⟨ySmall, rfl⟩ := symbol_of_value? second
  split at read
  next zero =>
    have one := toNat_byte (show x * 4 + y / 16 < 256 by omega)
    refine ⟨_, (Option.some.inj read).symm, ?_, ?_⟩
    all_goals
      rw [one]
      congr 1
      omega
  next => cases read

theorem lastBytes?_encode (proper : variant.Proper) {x y : UInt8} {n : Nat}
    (group : x.toNat * 256 + y.toNat = n) :
    variant.lastBytes? (variant.symbol (n / 1024)) (variant.symbol (n / 16 % 64))
      (variant.symbol (n % 16 * 4)) = some [x, y] := by
  have xSmall := x.toNat_lt
  have ySmall := y.toNat_lt
  rw [lastBytes?, value?_symbol proper (by omega), value?_symbol proper (by omega),
    value?_symbol proper (by omega)]
  have zero : n % 16 * 4 % 4 = 0 := by omega
  have one : n / 1024 * 4 + n / 16 % 64 / 16 = x.toNat := by omega
  have two : n / 16 % 64 % 16 * 16 + n % 16 * 4 / 4 = y.toNat := by omega
  simp only [Option.bind_eq_bind, Option.bind_some, if_pos zero, one, two, UInt8.ofNat_toNat]
  rfl

theorem lastBytes?_some (read : variant.lastBytes? a b c = some bytes) :
    ∃ (x y : UInt8) (n : Nat), bytes = [x, y] ∧ x.toNat * 256 + y.toNat = n ∧
      a = variant.symbol (n / 1024) ∧ b = variant.symbol (n / 16 % 64) ∧
      c = variant.symbol (n % 16 * 4) := by
  simp only [lastBytes?, Option.bind_eq_bind, Option.bind_eq_some_iff] at read
  obtain ⟨x, first, y, second, z, third, read⟩ := read
  obtain ⟨xSmall, rfl⟩ := symbol_of_value? first
  obtain ⟨ySmall, rfl⟩ := symbol_of_value? second
  obtain ⟨zSmall, rfl⟩ := symbol_of_value? third
  split at read
  next zero =>
    have one := toNat_byte (show x * 4 + y / 16 < 256 by omega)
    have two := toNat_byte (show y % 16 * 16 + z / 4 < 256 by omega)
    refine ⟨_, _, _, (Option.some.inj read).symm, rfl, ?_, ?_, ?_⟩
    all_goals
      rw [one, two]
      congr 1
      omega
  next => cases read

theorem bytes?_encode (proper : variant.Proper) {x y z : UInt8} {n : Nat}
    (group : (x.toNat * 256 + y.toNat) * 256 + z.toNat = n) :
    variant.bytes? (variant.symbol (n / 262144)) (variant.symbol (n / 4096 % 64))
      (variant.symbol (n / 64 % 64)) (variant.symbol (n % 64)) = some [x, y, z] := by
  have xSmall := x.toNat_lt
  have ySmall := y.toNat_lt
  have zSmall := z.toNat_lt
  rw [bytes?, value?_symbol proper (by omega), value?_symbol proper (by omega),
    value?_symbol proper (by omega), value?_symbol proper (by omega)]
  have one : n / 262144 * 4 + n / 4096 % 64 / 16 = x.toNat := by omega
  have two : n / 4096 % 64 % 16 * 16 + n / 64 % 64 / 4 = y.toNat := by omega
  have three : n / 64 % 64 % 4 * 64 + n % 64 = z.toNat := by omega
  simp only [Option.bind_eq_bind, Option.bind_some, one, two, three, UInt8.ofNat_toNat]
  rfl

theorem bytes?_some (read : variant.bytes? a b c d = some bytes) :
    ∃ (x y z : UInt8) (n : Nat), bytes = [x, y, z] ∧
      (x.toNat * 256 + y.toNat) * 256 + z.toNat = n ∧
      a = variant.symbol (n / 262144) ∧ b = variant.symbol (n / 4096 % 64) ∧
      c = variant.symbol (n / 64 % 64) ∧ d = variant.symbol (n % 64) := by
  simp only [bytes?, Option.bind_eq_bind, Option.bind_eq_some_iff] at read
  obtain ⟨x, first, y, second, z, third, w, fourth, read⟩ := read
  obtain ⟨xSmall, rfl⟩ := symbol_of_value? first
  obtain ⟨ySmall, rfl⟩ := symbol_of_value? second
  obtain ⟨zSmall, rfl⟩ := symbol_of_value? third
  obtain ⟨wSmall, rfl⟩ := symbol_of_value? fourth
  have one := toNat_byte (show x * 4 + y / 16 < 256 by omega)
  have two := toNat_byte (show y % 16 * 16 + z / 4 < 256 by omega)
  have three := toNat_byte (show z % 4 * 64 + w < 256 by omega)
  refine ⟨_, _, _, _, (Option.some.inj read).symm, rfl, ?_, ?_, ?_, ?_⟩
  all_goals
    rw [one, two, three]
    congr 1
    omega

section Agreement

variable (compatible : variant.Compatible other)

include compatible

theorem lastByte?_agree (read : variant.lastByte? a b = some bytes)
    (also : other.lastByte? a b = some more) : bytes = more := by
  simp only [lastByte?, Option.bind_eq_bind, Option.bind_eq_some_iff] at read also
  obtain ⟨x, first, y, second, read⟩ := read
  obtain ⟨x', first', y', second', also⟩ := also
  rw [value?_agree compatible first first', value?_agree compatible second second'] at read
  exact Option.some.inj (read.symm.trans also)

theorem lastBytes?_agree (read : variant.lastBytes? a b c = some bytes)
    (also : other.lastBytes? a b c = some more) : bytes = more := by
  simp only [lastBytes?, Option.bind_eq_bind, Option.bind_eq_some_iff] at read also
  obtain ⟨x, first, y, second, z, third, read⟩ := read
  obtain ⟨x', first', y', second', z', third', also⟩ := also
  rw [value?_agree compatible first first', value?_agree compatible second second',
    value?_agree compatible third third'] at read
  exact Option.some.inj (read.symm.trans also)

theorem bytes?_agree (read : variant.bytes? a b c d = some bytes)
    (also : other.bytes? a b c d = some more) : bytes = more := by
  simp only [bytes?, Option.bind_eq_bind, Option.bind_eq_some_iff] at read also
  obtain ⟨x, first, y, second, z, third, w, fourth, read⟩ := read
  obtain ⟨x', first', y', second', z', third', w', fourth', also⟩ := also
  rw [value?_agree compatible first first', value?_agree compatible second second',
    value?_agree compatible third third', value?_agree compatible fourth fourth'] at read
  exact Option.some.inj (read.symm.trans also)

end Agreement

theorem bytes?_pad (proper : variant.Proper) : variant.bytes? a b c '=' = none := by
  cases read : variant.bytes? a b c '=' with
  | none => rfl
  | some bytes =>
    simp only [bytes?, proper.pad, Option.bind_eq_bind, Option.bind_none,
      Option.bind_eq_some_iff] at read
    obtain ⟨_, _, _, _, _, _, read⟩ := read
    cases read

end Groups

section Texts

variable {variant other : Variant} {text : List Char} {bytes more : List UInt8}

theorem decode?_encode (proper : variant.Proper) (bytes : List UInt8) :
    variant.decode? (variant.encode bytes) = some bytes := by
  fun_induction encode variant bytes with
  | case1 => rfl
  | case2 x =>
    by_cases pads : variant.padded = true
    · rw [if_pos pads]
      show variant.decode? [_, _, '=', '='] = _
      rw [decode?, if_pos ⟨pads, rfl, rfl⟩, if_pos rfl]
      exact lastByte?_encode proper x
    · rw [if_neg pads]
      show variant.decode? [_, _] = _
      rw [decode?, if_neg pads]
      exact lastByte?_encode proper x
  | case3 x y n =>
    by_cases pads : variant.padded = true
    · have third : variant.symbol (n % 16 * 4) ≠ '=' := symbol_ne_pad proper (by omega)
      rw [if_pos pads]
      show variant.decode? [_, _, _, '='] = _
      rw [decode?, if_pos ⟨pads, rfl, rfl⟩, if_neg third]
      exact lastBytes?_encode proper rfl
    · rw [if_neg pads]
      show variant.decode? [_, _, _] = _
      rw [decode?, if_neg pads]
      exact lastBytes?_encode proper rfl
  | case4 x y z rest n ih =>
    have fourth : variant.symbol (n % 64) ≠ '=' := symbol_ne_pad proper (by omega)
    have first : variant.bytes? _ _ _ _ = some [x, y, z] := bytes?_encode proper rfl
    rw [decode?, if_neg fun padding => fourth padding.2.2, first, ih]
    rfl

theorem eq_encode_of_decode? (read : variant.decode? text = some bytes) :
    text = variant.encode bytes := by
  fun_induction decode? variant text generalizing bytes with
  | case1 =>
    cases read
    rfl
  | case2 | case4 | case9 => cases read
  | case3 a b bare =>
    obtain ⟨x, rfl, rfl, rfl⟩ := lastByte?_some read
    rw [encode, if_neg bare]
    rfl
  | case5 a b c bare =>
    obtain ⟨x, y, _, rfl, rfl, rfl, rfl, rfl⟩ := lastBytes?_some read
    rw [encode, if_neg bare]
    rfl
  | case6 a b d rest padding =>
    obtain ⟨pads, last, rfl⟩ := padding
    obtain ⟨x, rfl, rfl, rfl⟩ := lastByte?_some read
    rw [encode, if_pos pads, List.isEmpty_iff.mp last]
    rfl
  | case7 a b c d rest padding =>
    obtain ⟨pads, last, rfl⟩ := padding
    obtain ⟨x, y, _, rfl, rfl, rfl, rfl, rfl⟩ := lastBytes?_some read
    rw [encode, if_pos pads, List.isEmpty_iff.mp last]
    rfl
  | case8 a b c d rest full ih =>
    simp only [Option.bind_eq_bind, Option.bind_eq_some_iff] at read
    obtain ⟨first, group, others, behind, same⟩ := read
    obtain ⟨x, y, z, _, rfl, rfl, rfl, rfl, rfl, rfl⟩ := bytes?_some group
    rw [← Option.some.inj same, ih behind]
    rfl

theorem mem_encode {c : Char} (member : c ∈ variant.encode bytes) :
    c = '=' ∨ ∃ n < 64, c = variant.symbol n := by
  fun_induction encode variant bytes with
  | case1 => cases member
  | case2 x n =>
    have small := x.toNat_lt
    rcases List.mem_append.mp member with symbol | pad
    · simp only [List.mem_cons, List.not_mem_nil, or_false] at symbol
      rcases symbol with rfl | rfl
      · exact .inr ⟨_, by omega, rfl⟩
      · exact .inr ⟨_, by omega, rfl⟩
    · split at pad
      · simp only [List.mem_cons, List.not_mem_nil, or_false, or_self] at pad
        exact .inl pad
      · cases pad
  | case3 x y n =>
    have xSmall := x.toNat_lt
    have ySmall := y.toNat_lt
    rcases List.mem_append.mp member with symbol | pad
    · simp only [List.mem_cons, List.not_mem_nil, or_false] at symbol
      rcases symbol with rfl | rfl | rfl
      · exact .inr ⟨_, by omega, rfl⟩
      · exact .inr ⟨_, by omega, rfl⟩
      · exact .inr ⟨_, by omega, rfl⟩
    · split at pad
      · exact .inl (List.mem_singleton.mp pad)
      · cases pad
  | case4 x y z rest n ih =>
    have xSmall := x.toNat_lt
    have ySmall := y.toNat_lt
    have zSmall := z.toNat_lt
    simp only [List.mem_cons] at member
    rcases member with rfl | rfl | rfl | rfl | behind
    · exact .inr ⟨_, by omega, rfl⟩
    · exact .inr ⟨_, by omega, rfl⟩
    · exact .inr ⟨_, by omega, rfl⟩
    · exact .inr ⟨_, by omega, rfl⟩
    · exact ih behind

theorem decode?_eq_some_iff (proper : variant.Proper) :
    variant.decode? text = some bytes ↔ text = variant.encode bytes :=
  ⟨eq_encode_of_decode?, fun same => same ▸ decode?_encode proper bytes⟩

theorem decode?_agree (proper : variant.Proper) (alsoProper : other.Proper)
    (compatible : variant.Compatible other) (read : variant.decode? text = some bytes)
    (also : other.decode? text = some more) : bytes = more := by
  fun_induction decode? variant text generalizing bytes more with
  | case1 => exact Option.some.inj (read.symm.trans also)
  | case2 | case4 | case9 => cases read
  | case3 a b =>
    rw [decode?] at also
    split at also
    · cases also
    · exact lastByte?_agree compatible read also
  | case5 a b c =>
    rw [decode?] at also
    split at also
    · cases also
    · exact lastBytes?_agree compatible read also
  | case6 a b d rest padding =>
    rw [decode?, padding.2.2] at also
    split at also
    · exact lastByte?_agree compatible read also
    · rw [bytes?_pad alsoProper] at also
      cases also
  | case7 a b c d rest padding third =>
    rw [decode?, padding.2.2] at also
    split at also
    · exact lastBytes?_agree compatible read also
    · rw [bytes?_pad alsoProper] at also
      cases also
  | case8 a b c d rest full ih =>
    simp only [Option.bind_eq_bind, Option.bind_eq_some_iff] at read
    obtain ⟨first, group, others, behind, same⟩ := read
    rw [decode?] at also
    split at also
    next padding =>
      rw [padding.2.2, bytes?_pad proper] at group
      cases group
    · simp only [Option.bind_eq_bind, Option.bind_eq_some_iff] at also
      obtain ⟨first', group', others', behind', same'⟩ := also
      rw [← Option.some.inj same, ← Option.some.inj same', bytes?_agree compatible group group',
        ih behind behind']

end Texts

end Variant

/-- A text is read as some bytes just if one of the variants writes them so. -/
theorem decodeAny?_eq_some_iff {text : List Char} {bytes : List UInt8} :
    decodeAny? text = some bytes ↔ ∃ variant ∈ variants, text = variant.encode bytes := by
  have tried : decodeAny? text = variants.findSome? (·.decode? text) := by
    simp only [decodeAny?, variants, List.findSome?_cons, List.findSome?_nil]
    cases standard.decode? text <;> cases urlSafe.decode? text <;>
      cases urlSafeUnpadded.decode? text <;> rfl
  rw [tried]
  constructor
  · intro found
    obtain ⟨variant, member, read⟩ := List.exists_of_findSome?_eq_some found
    exact ⟨variant, member, Variant.eq_encode_of_decode? read⟩
  · rintro ⟨variant, member, written⟩
    have proper := Variant.proper_of_mem member
    have read := (Variant.decode?_eq_some_iff proper).mpr written
    cases found : variants.findSome? (·.decode? text) with
    | none =>
      rw [List.findSome?_eq_none_iff.mp found variant member] at read
      cases read
    | some more =>
      obtain ⟨first, before, also⟩ := List.exists_of_findSome?_eq_some found
      have same := Variant.decode?_agree proper (Variant.proper_of_mem before)
        (Variant.compatible_of_mem member before) read also
      rw [same]

end SchemaCheck.Base64
