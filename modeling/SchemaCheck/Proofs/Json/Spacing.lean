import SchemaCheck.Proofs.Json.Number
import SchemaCheck.Proofs.Json.Quoted
import SchemaCheck.Proofs.Json.Value
import SchemaCheck.Proofs.Text.Blank

/-!
The text of a value is read as the value, on one line (`parse_compact`) or with one entry a line
(`readDocument_prettyChars`), as long as the value nests no deeper than the reader goes and its real
numbers are read exactly. The two texts differ only in the blanks between their signs, and any
blanks may stand there (`Spacing.readsBack`).
-/

namespace SchemaCheck.Json

open Text

section Openings

def Opening (c : Char) : Prop :=
  c.isDigit = true ∨ c = '-' ∨ c = '"' ∨ c = '[' ∨ c = '\x7b' ∨ c = 'n' ∨ c = 't' ∨ c = 'f'

instance (c : Char) : Decidable (Opening c) := inferInstanceAs (Decidable (_ ∨ _))

variable {c : Char}

theorem Opening.notBlank (opens : Opening c) : isBlank c = false := by
  rcases opens with digit | rfl | rfl | rfl | rfl | rfl | rfl | rfl
  · exact isBlank_of_isDigit digit
  all_goals decide

theorem isSpace_of_notBlank (notBlank : isBlank c = false) : isSpace c = false := by
  rw [Bool.eq_false_iff] at notBlank ⊢
  intro space
  simp only [isSpace, Bool.or_eq_true, beq_iff_eq] at space
  refine notBlank ?_
  rcases space with ((rfl | rfl) | rfl) | rfl <;> decide

theorem Opening.notSpace (opens : Opening c) : isSpace c = false :=
  isSpace_of_notBlank opens.notBlank

theorem Opening.notBracket (opens : Opening c) : c ≠ ']' := by
  rintro rfl
  rcases opens with digit | same | same | same | same | same | same | same
  · cases digit
  all_goals cases same

theorem numberChar_notBlank (number : NumberChar c) : isBlank c = false := by
  rcases number with digit | rfl | rfl | rfl | rfl
  · exact isBlank_of_isDigit digit
  all_goals decide

theorem render_head (n : Number) :
    ∃ c rest, n.render = c :: rest ∧ (c.isDigit = true ∨ c = '-') := by
  cases n with
  | integer n low high =>
    obtain ⟨c, more, spelled⟩ := List.exists_cons_of_ne_nil (digitsOf_ne_nil n.natAbs)
    have digit : c.isDigit = true := digitsOf_all _ c (spelled ▸ List.mem_cons_self)
    rw [show (Number.integer n low high).render = decimal n from rfl, decimal]
    split
    · exact ⟨'-', _, rfl, .inr rfl⟩
    · exact ⟨c, more, spelled, .inl digit⟩
  | real x =>
    obtain ⟨c, more, spelled, digit⟩ := magnitude_head x
    rw [Binary64.Finite.render_real]
    split
    · exact ⟨'-', _, rfl, .inr rfl⟩
    · exact ⟨c, more, spelled, .inl digit⟩

theorem compactChars_head (value : Value) :
    ∃ c rest, value.compactChars = c :: rest ∧ Opening c := by
  cases value with
  | null => exact ⟨'n', _, rfl, by decide⟩
  | bool b =>
    cases b with
    | true => exact ⟨'t', _, rfl, by decide⟩
    | false => exact ⟨'f', _, rfl, by decide⟩
  | number n =>
    obtain ⟨c, rest, spelled, opens⟩ := render_head n
    exact ⟨c, rest, spelled, opens.imp id .inl⟩
  | string text => exact ⟨'"', _, rfl, .inr (.inr (.inl rfl))⟩
  | array items => exact ⟨'[', _, rfl, .inr (.inr (.inr (.inl rfl)))⟩
  | object fields => exact ⟨'\x7b', _, rfl, .inr (.inr (.inr (.inr (.inl rfl))))⟩

theorem compactChars_last (value : Value) :
    ∃ front c, value.compactChars = front ++ [c] ∧ isBlank c = false := by
  cases value with
  | null => exact ⟨['n', 'u', 'l'], 'l', rfl, by decide⟩
  | bool b =>
    cases b with
    | true => exact ⟨['t', 'r', 'u'], 'e', rfl, by decide⟩
    | false => exact ⟨['f', 'a', 'l', 's'], 'e', rfl, by decide⟩
  | number n =>
    obtain ⟨c, rest, spelled, _⟩ := render_head n
    have filled : n.render ≠ [] := by rw [spelled]; exact List.cons_ne_nil c rest
    refine ⟨n.render.dropLast, n.render.getLast filled,
      (List.dropLast_concat_getLast filled).symm, ?_⟩
    exact numberChar_notBlank (render_chars n (List.getLast_mem filled))
  | string text => exact ⟨'"' :: text.toList.flatMap escapeChar, '"', rfl, by decide⟩
  | array items => exact ⟨'[' :: Value.compactItems items, ']', rfl, by decide⟩
  | object fields => exact ⟨'\x7b' :: Value.compactFields fields, '\x7d', rfl, by decide⟩

theorem trimmed_compact (value : Value) : trimmed value.compact = value.compact := by
  obtain ⟨first, rest, starts, opens⟩ := compactChars_head value
  rw [trimmed, Value.compact, String.toList_ofList,
    trim_of_ends ⟨first, rest, starts, opens.notBlank⟩ (compactChars_last value)]

end Openings

section Blanks

/-- Text that does not count between two signs. -/
def Blanks (text : List Char) : Prop := ∀ c ∈ text, isSpace c = true

variable {c : Char} {blanks text rest behind : List Char} {fuel depth : Nat} {first : Bool}
  {value : Value}

theorem blanks_nil : Blanks [] := fun _ member => (nomatch member)

theorem skipSpace_cons (notSpace : isSpace c = false) (rest : List Char) :
    skipSpace (c :: rest) = c :: rest := by
  rw [skipSpace, List.dropWhile_cons_of_neg (by simp [notSpace])]

theorem Blanks.skipSpace_append (blank : Blanks blanks) (text : List Char) :
    skipSpace (blanks ++ text) = skipSpace text :=
  List.dropWhile_append_of_pos blank

theorem Blanks.skipSpace_cons (blank : Blanks blanks) (notSpace : isSpace c = false)
    (rest : List Char) : skipSpace (blanks ++ c :: rest) = c :: rest := by
  rw [blank.skipSpace_append, Json.skipSpace_cons notSpace]

theorem Blanks.delimited (blank : Blanks blanks) (delimited : Delimited rest) :
    Delimited (blanks ++ rest) := by
  cases blanks with
  | nil => exact delimited
  | cons c more =>
    refine delimited_cons ?_ _
    have space := blank c List.mem_cons_self
    simp only [isSpace, Bool.or_eq_true, beq_iff_eq] at space
    rcases space with ((rfl | rfl) | rfl) | rfl <;> decide

theorem readValue_skipSpace (fuel depth : Nat) {ahead : List Char}
    (same : skipSpace text = skipSpace ahead)
    (read : readValue fuel depth text = .ok (value, rest)) :
    readValue fuel depth ahead = .ok (value, rest) := by
  cases fuel with
  | zero => cases read
  | succ fuel =>
    rw [readValue, same] at read
    rw [readValue]
    exact read

theorem readItems_end (blank : Blanks blanks) (first : Bool) :
    readItems (fuel + 1) depth first (blanks ++ ']' :: rest) = .ok ([], rest) := by
  have closing := blank.skipSpace_cons (c := ']') (by decide) rest
  have ended : nextItem first (blanks ++ ']' :: rest) = .ok none := by
    rw [nextItem, closing]
    rfl
  rw [readItems, ended]
  simp only [bind, Except.bind, dropClosing, closing]
  rfl

/-- An array goes on with an element: the element is read, then the others. -/
theorem readItems_next {start : List Char} {others : List Value}
    (goesOn : nextItem first text = .ok (some start))
    (back : readValue fuel depth start = .ok (value, behind))
    (later : readItems fuel depth false behind = .ok (others, rest)) :
    readItems (fuel + 1) depth first text = .ok (value :: others, rest) := by
  rw [readItems, goesOn]
  simp only [bind, Except.bind, back, later]
  rfl

theorem nextItem_first (blank : Blanks blanks) (opens : Opening c) (rest : List Char) :
    nextItem true (blanks ++ c :: rest) = .ok (some (c :: rest)) := by
  rw [nextItem, blank.skipSpace_cons opens.notSpace]
  simp only [if_neg opens.notBracket, if_true]

theorem nextItem_later (blank : Blanks blanks) (opens : Opening c) (rest : List Char) :
    nextItem false (',' :: (blanks ++ c :: rest)) = .ok (some (c :: rest)) := by
  rw [nextItem, skipSpace_cons (by decide)]
  dsimp only
  rw [blank.skipSpace_cons opens.notSpace]
  simp only [if_neg opens.notBracket]
  rfl

theorem readValue_array {items : List Value} (opens : skipSpace text = '[' :: behind)
    (inner : readItems fuel depth true behind = .ok (items, rest)) :
    readValue (fuel + 1) (depth + 1) text = .ok (.array items, rest) := by
  rw [readValue, opens]
  simp only [bind, Except.bind, inner]
  rfl

theorem readFields_end (blank : Blanks blanks) (first : Bool) :
    readFields (fuel + 1) depth first (blanks ++ '\x7d' :: rest) = .ok ([], rest) := by
  have closing := blank.skipSpace_cons (c := '\x7d') (by decide) rest
  have ended : nextKey first (blanks ++ '\x7d' :: rest) = .ok none := by
    rw [nextKey, closing]
    rfl
  rw [readFields, ended]
  simp only [bind, Except.bind, dropClosing, closing]
  rfl

theorem readFields_next {start colon inner : List Char} {name : String}
    {others : List (String × Value)} (goesOn : nextKey first text = .ok (some start))
    (key : readString start = .ok (name, colon)) (mark : readColon colon = .ok ((), inner))
    (back : readValue fuel depth inner = .ok (value, behind))
    (later : readFields fuel depth false behind = .ok (others, rest)) :
    readFields (fuel + 1) depth first text = .ok ((name, value) :: others, rest) := by
  rw [readFields, goesOn]
  simp only [bind, Except.bind, key, mark, back, later]
  rfl

theorem nextKey_first (blank : Blanks blanks) (rest : List Char) :
    nextKey true (blanks ++ '"' :: rest) = .ok (some rest) := by
  rw [nextKey, blank.skipSpace_cons (by decide)]
  rfl

theorem nextKey_later (blank : Blanks blanks) (rest : List Char) :
    nextKey false (',' :: (blanks ++ '"' :: rest)) = .ok (some rest) := by
  rw [nextKey, skipSpace_cons (by decide)]
  dsimp only
  rw [blank.skipSpace_cons (by decide)]
  rfl

theorem readValue_object {fields : List (String × Value)}
    (opens : skipSpace text = '\x7b' :: behind)
    (inner : readFields fuel depth true behind = .ok (fields, rest)) :
    readValue (fuel + 1) (depth + 1) text = .ok (.object fields, rest) := by
  rw [readValue, opens]
  simp only [bind, Except.bind, inner]
  rfl

theorem readValue_scalar {c : Char} {text : List Char} (fuel depth : Nat)
    (notSpace : isSpace c = false) (notBracket : c ≠ '[') (notBrace : c ≠ '\x7b') :
    readValue (fuel + 1) depth (c :: text) = readScalar (c :: text) := by
  rw [readValue, skipSpace_cons notSpace]
  split
  next same => cases same; exact absurd rfl notBracket
  next same => cases same; exact absurd rfl notBrace
  next => rfl

end Blanks

/-- The blanks between the signs of a text. -/
structure Spacing where
  /-- What stands in front of an entry at a level, and in front of the end of a collection there. -/
  ahead : Nat → List Char
  /-- What stands behind the colon of a field. -/
  colon : List Char
  blankAhead (level : Nat) : Blanks (ahead level)
  blankColon : Blanks colon

namespace Spacing

mutual

def chars (spacing : Spacing) (level : Nat) : Value → List Char
  | .array [] => ['[', ']']
  | .array (item :: rest) =>
    '[' :: (spacing.ahead (level + 1) ++ (spacing.chars (level + 1) item ++
      (spacing.laterItems (level + 1) rest ++ (spacing.ahead level ++ [']']))))
  | .object [] => ['\x7b', '\x7d']
  | .object ((name, value) :: rest) =>
    '\x7b' :: (spacing.ahead (level + 1) ++ '"' :: (name.toList.flatMap escapeChar ++
      '"' :: ':' :: (spacing.colon ++ (spacing.chars (level + 1) value ++
        (spacing.laterFields (level + 1) rest ++ (spacing.ahead level ++ ['\x7d']))))))
  | scalar => scalar.compactChars

def laterItems (spacing : Spacing) (level : Nat) : List Value → List Char
  | [] => []
  | item :: rest =>
    ',' :: (spacing.ahead level ++ (spacing.chars level item ++ spacing.laterItems level rest))

def laterFields (spacing : Spacing) (level : Nat) : List (String × Value) → List Char
  | [] => []
  | (name, value) :: rest =>
    ',' :: (spacing.ahead level ++ '"' :: (name.toList.flatMap escapeChar ++
      '"' :: ':' :: (spacing.colon ++ (spacing.chars level value ++
        spacing.laterFields level rest))))

end

variable {spacing : Spacing}

theorem chars_head (spacing : Spacing) (level : Nat) (value : Value) :
    ∃ c rest, spacing.chars level value = c :: rest ∧ Opening c := by
  cases value with
  | array items =>
    have opens : Opening '[' := .inr (.inr (.inr (.inl rfl)))
    cases items with
    | nil => exact ⟨'[', [']'], rfl, opens⟩
    | cons item rest => exact ⟨'[', _, rfl, opens⟩
  | object fields =>
    have opens : Opening '\x7b' := .inr (.inr (.inr (.inr (.inl rfl))))
    cases fields with
    | nil => exact ⟨'\x7b', ['\x7d'], rfl, opens⟩
    | cons field rest => exact ⟨'\x7b', _, rfl, opens⟩
  | null => exact compactChars_head .null
  | bool b => exact compactChars_head (.bool b)
  | number n => exact compactChars_head (.number n)
  | string text => exact compactChars_head (.string text)

theorem chars_length_pos (spacing : Spacing) (level : Nat) (value : Value) :
    0 < (spacing.chars level value).length := by
  obtain ⟨c, rest, spelled, _⟩ := spacing.chars_head level value
  rw [spelled]
  exact Nat.succ_pos _

section Reading

/-- What is to be shown of a value: whatever stands behind its text, it is read as it was. -/
def ReadsBack (spacing : Spacing) (value : Value) : Prop :=
  ∀ (level fuel depth : Nat) (rest : List Char), 2 * (spacing.chars level value).length ≤ fuel →
    value.nesting ≤ depth → Delimited rest →
    readValue fuel depth (spacing.chars level value ++ rest) = .ok (value, rest)

theorem readsBack_scalar {value : Value}
    (plain : ∀ level, spacing.chars level value = value.compactChars)
    (read : ∀ rest, Delimited rest → readScalar (value.compactChars ++ rest) = .ok (value, rest)) :
    spacing.ReadsBack value := by
  intro level fuel depth rest enough _ delimited
  obtain ⟨c, more, spelled, opens⟩ := compactChars_head value
  have meant := read rest delimited
  rw [spelled, List.cons_append] at meant
  rw [plain, spelled, List.length_cons] at enough
  rw [plain, spelled, List.cons_append]
  obtain ⟨less, rfl⟩ : ∃ less, fuel = less + 1 := Nat.exists_eq_succ_of_ne_zero (by omega)
  rw [readValue_scalar less depth opens.notSpace, meant]
  · rintro rfl
    cases meant
  · rintro rfl
    cases meant

theorem readsBack_null : spacing.ReadsBack .null :=
  readsBack_scalar (fun _ => rfl) fun _ _ => rfl

theorem readsBack_bool (b : Bool) : spacing.ReadsBack (.bool b) := by
  refine readsBack_scalar (fun _ => rfl) fun _ _ => ?_
  cases b <;> rfl

theorem readsBack_number (n : Number) (exactly : ∀ x, n = .real x → x.ReadExactly) :
    spacing.ReadsBack (.number n) :=
  readsBack_scalar (fun _ => rfl) fun _ delimited => readScalar_number n exactly delimited

theorem readsBack_string (text : String) : spacing.ReadsBack (.string text) := by
  refine readsBack_scalar (fun _ => rfl) fun rest _ => ?_
  rw [Value.compactChars, quoted, List.cons_append, List.append_assoc, List.cons_append,
    List.nil_append, readScalar, readString_quoted]
  rfl

variable {level depth : Nat} {rest behind : List Char}

theorem delimited_laterItems (spacing : Spacing) (level : Nat) (items : List Value)
    (delimited : Delimited rest) :
    Delimited (spacing.laterItems level items ++ rest) := by
  cases items with
  | nil => exact delimited
  | cons => exact delimited_cons (by decide) _

theorem delimited_laterFields (spacing : Spacing) (level : Nat) (fields : List (String × Value))
    (delimited : Delimited rest) :
    Delimited (spacing.laterFields level fields ++ rest) := by
  cases fields with
  | nil => exact delimited
  | cons => exact delimited_cons (by decide) _

theorem delimited_closing (spacing : Spacing) (level : Nat) {c : Char} (mark : c ∈ delimiters)
    (rest : List Char) : Delimited (spacing.ahead level ++ c :: rest) :=
  (spacing.blankAhead level).delimited (delimited_cons mark rest)

theorem readItems_later {items : List Value} (back : ∀ item ∈ items, spacing.ReadsBack item)
    (level below fuel : Nat) (rest : List Char)
    (enough : 2 * (spacing.laterItems level items).length + 1 ≤ fuel)
    (near : Value.nestingOfItems items ≤ depth) :
    readItems fuel depth false
      (spacing.laterItems level items ++ (spacing.ahead below ++ ']' :: rest)) =
        .ok (items, rest) := by
  induction items generalizing fuel with
  | nil =>
    obtain ⟨less, rfl⟩ : ∃ less, fuel = less + 1 := Nat.exists_eq_succ_of_ne_zero (by omega)
    exact readItems_end (spacing.blankAhead below) false
  | cons item others ih =>
    obtain ⟨less, rfl⟩ : ∃ less, fuel = less + 1 := Nat.exists_eq_succ_of_ne_zero (by omega)
    simp only [laterItems, List.length_cons, List.length_append] at enough
    simp only [Value.nestingOfItems, Nat.max_le] at near
    have delimited := spacing.delimited_laterItems level others
      (spacing.delimited_closing below (c := ']') (by decide) rest)
    have one := back item List.mem_cons_self level less depth _ (by omega) near.1 delimited
    have later := ih (fun item later => back item (List.mem_cons_of_mem _ later)) less (by omega)
      near.2
    obtain ⟨c, more, spelled, opens⟩ := spacing.chars_head level item
    rw [spelled, List.cons_append] at one
    rw [laterItems, List.cons_append, List.append_assoc, List.append_assoc, spelled,
      List.cons_append]
    exact readItems_next (nextItem_later (spacing.blankAhead level) opens _) one later

theorem readsBack_array {items : List Value} (back : ∀ item ∈ items, spacing.ReadsBack item) :
    spacing.ReadsBack (.array items) := by
  intro level fuel depth rest enough near _
  obtain ⟨less, rfl⟩ : ∃ less, fuel = less + 1 := by
    have positive := spacing.chars_length_pos level (.array items)
    exact Nat.exists_eq_succ_of_ne_zero (by omega)
  rw [Value.nesting] at near
  obtain ⟨below, rfl⟩ : ∃ below, depth = below + 1 := Nat.exists_eq_succ_of_ne_zero (by omega)
  have inside := Nat.le_of_succ_le_succ near
  cases items with
  | nil =>
    have long : 2 * 2 ≤ less + 1 := enough
    obtain ⟨least, rfl⟩ : ∃ least, less = least + 1 := Nat.exists_eq_succ_of_ne_zero (by omega)
    exact readValue_array (skipSpace_cons (by decide) _) (readItems_end blanks_nil true)
  | cons item others =>
    simp only [chars, List.length_cons, List.length_append, List.length_nil] at enough
    simp only [Value.nestingOfItems, Nat.max_le] at inside
    obtain ⟨least, rfl⟩ : ∃ least, less = least + 1 := Nat.exists_eq_succ_of_ne_zero (by omega)
    have delimited := spacing.delimited_laterItems (level + 1) others
      (spacing.delimited_closing level (c := ']') (by decide) rest)
    have one := back item List.mem_cons_self (level + 1) least below _ (by omega) inside.1 delimited
    have later := readItems_later (fun item later => back item (List.mem_cons_of_mem _ later))
      (level + 1) level least rest (by omega) inside.2
    obtain ⟨c, more, spelled, opens⟩ := spacing.chars_head (level + 1) item
    rw [spelled, List.cons_append] at one
    simp only [chars, spelled, List.cons_append, List.append_assoc, List.nil_append]
    exact readValue_array (skipSpace_cons (by decide) _)
      (readItems_next (nextItem_first (spacing.blankAhead _) opens _) one later)

theorem readFields_field {fuel : Nat} {first : Bool} {text : List Char} {name : String}
    {value : Value} {others : List (String × Value)}
    (goesOn : nextKey first text = .ok (some (name.toList.flatMap escapeChar ++
      '"' :: ':' :: (spacing.colon ++ (spacing.chars level value ++ behind)))))
    (back : readValue fuel depth (spacing.chars level value ++ behind) = .ok (value, behind))
    (later : readFields fuel depth false behind = .ok (others, rest)) :
    readFields (fuel + 1) depth first text = .ok ((name, value) :: others, rest) := by
  have colon : readColon (':' :: (spacing.colon ++ (spacing.chars level value ++ behind))) =
      .ok ((), spacing.colon ++ (spacing.chars level value ++ behind)) := by
    rw [readColon, skipSpace_cons (by decide)]
    rfl
  have inner := readValue_skipSpace fuel depth (spacing.blankColon.skipSpace_append _).symm back
  exact readFields_next goesOn (readString_quoted name _) colon inner later

theorem readFields_later {fields : List (String × Value)}
    (back : ∀ field ∈ fields, spacing.ReadsBack field.2) (level below fuel : Nat)
    (rest : List Char) (enough : 2 * (spacing.laterFields level fields).length + 1 ≤ fuel)
    (near : Value.nestingOfFields fields ≤ depth) :
    readFields fuel depth false
      (spacing.laterFields level fields ++ (spacing.ahead below ++ '\x7d' :: rest)) =
        .ok (fields, rest) := by
  induction fields generalizing fuel with
  | nil =>
    obtain ⟨less, rfl⟩ : ∃ less, fuel = less + 1 := Nat.exists_eq_succ_of_ne_zero (by omega)
    exact readFields_end (spacing.blankAhead below) false
  | cons field others ih =>
    obtain ⟨name, value⟩ := field
    obtain ⟨less, rfl⟩ : ∃ less, fuel = less + 1 := Nat.exists_eq_succ_of_ne_zero (by omega)
    simp only [laterFields, List.length_cons, List.length_append] at enough
    simp only [Value.nestingOfFields, Nat.max_le] at near
    have delimited := spacing.delimited_laterFields level others
      (spacing.delimited_closing below (c := '\x7d') (by decide) rest)
    have part : spacing.ReadsBack value := back _ List.mem_cons_self
    have one := part level less depth _ (by omega) near.1 delimited
    have later := ih (fun field later => back field (List.mem_cons_of_mem _ later)) less (by omega)
      near.2
    simp only [laterFields, List.cons_append, List.append_assoc]
    exact readFields_field (nextKey_later (spacing.blankAhead level) _) one later

theorem readsBack_object {fields : List (String × Value)}
    (back : ∀ field ∈ fields, spacing.ReadsBack field.2) : spacing.ReadsBack (.object fields) := by
  intro level fuel depth rest enough near _
  obtain ⟨less, rfl⟩ : ∃ less, fuel = less + 1 := by
    have positive := spacing.chars_length_pos level (.object fields)
    exact Nat.exists_eq_succ_of_ne_zero (by omega)
  rw [Value.nesting] at near
  obtain ⟨below, rfl⟩ : ∃ below, depth = below + 1 := Nat.exists_eq_succ_of_ne_zero (by omega)
  have inside := Nat.le_of_succ_le_succ near
  cases fields with
  | nil =>
    have long : 2 * 2 ≤ less + 1 := enough
    obtain ⟨least, rfl⟩ : ∃ least, less = least + 1 := Nat.exists_eq_succ_of_ne_zero (by omega)
    exact readValue_object (skipSpace_cons (by decide) _) (readFields_end blanks_nil true)
  | cons field others =>
    obtain ⟨name, value⟩ := field
    simp only [chars, List.length_cons, List.length_append, List.length_nil] at enough
    simp only [Value.nestingOfFields, Nat.max_le] at inside
    obtain ⟨least, rfl⟩ : ∃ least, less = least + 1 := Nat.exists_eq_succ_of_ne_zero (by omega)
    have delimited := spacing.delimited_laterFields (level + 1) others
      (spacing.delimited_closing level (c := '\x7d') (by decide) rest)
    have part : spacing.ReadsBack value := back _ List.mem_cons_self
    have one := part (level + 1) least below _ (by omega) inside.1 delimited
    have later := readFields_later (fun field later => back field (List.mem_cons_of_mem _ later))
      (level + 1) level least rest (by omega) inside.2
    simp only [chars, List.cons_append, List.append_assoc, List.nil_append]
    exact readValue_object (skipSpace_cons (by decide) _)
      (readFields_field (nextKey_first (spacing.blankAhead _) _) one later)

/-- A value whose real numbers are read exactly is read as it was. -/
theorem readsBack (spacing : Spacing) (value : Value) (exactly : ∀ x ∈ value.reals, x.ReadExactly) :
    spacing.ReadsBack value := by
  induction value using Value.induction with
  | null => exact readsBack_null
  | bool b => exact readsBack_bool b
  | number n =>
    refine readsBack_number n fun x same => exactly x ?_
    subst same
    exact List.mem_singleton_self x
  | string text => exact readsBack_string text
  | array items parts =>
    exact readsBack_array fun item member => parts item member fun x inside =>
      exactly x (Value.mem_reals_item member inside)
  | object fields parts =>
    exact readsBack_object fun field member => parts field member fun x inside =>
      exactly x (Value.mem_reals_field member inside)

end Reading

theorem readDocument (spacing : Spacing) {value : Value}
    (exactly : ∀ x ∈ value.reals, x.ReadExactly) (near : value.nesting ≤ maxNesting)
    {blanks : List Char} (blank : Blanks blanks) :
    Json.readDocument (spacing.chars 0 value ++ blanks) = .ok value := by
  have enough : 2 * (spacing.chars 0 value).length ≤
      stepsFor (spacing.chars 0 value ++ blanks) := by
    rw [stepsFor, List.length_append]
    omega
  have delimited : Delimited blanks := List.append_nil blanks ▸ blank.delimited delimited_nil
  have ended : skipSpace blanks = [] := List.append_nil blanks ▸ blank.skipSpace_append []
  rw [Json.readDocument,
    spacing.readsBack value exactly 0 _ maxNesting blanks enough near delimited]
  simp only [bind, Except.bind, readEnd, ended]
  rfl

def none : Spacing where
  ahead _ := []
  colon := []
  blankAhead _ := blanks_nil
  blankColon := blanks_nil

/-- One entry a line, and a blank behind a colon. -/
def lines : Spacing where
  ahead := Value.newLine
  colon := [' ']
  blankAhead level := by
    intro c member
    rcases List.mem_cons.mp member with rfl | indentation
    · rfl
    · rw [List.eq_of_mem_replicate indentation]
      rfl
  blankColon := fun c member => List.mem_singleton.mp member ▸ rfl

theorem compactItems_cons {rest : List Value}
    (same : ∀ item ∈ rest, ∀ level, none.chars level item = item.compactChars) (level : Nat)
    (first : Value) :
    Value.compactItems (first :: rest) = first.compactChars ++ none.laterItems level rest := by
  induction rest generalizing first with
  | nil => exact (List.append_nil _).symm
  | cons next rest ih =>
    rw [Value.compactItems, ih fun item later => same item (List.mem_cons_of_mem _ later),
      laterItems, same next List.mem_cons_self]
    · rfl
    · exact List.cons_ne_nil _ _

theorem compactFields_cons {rest : List (String × Value)}
    (same : ∀ field ∈ rest, ∀ level, none.chars level field.2 = field.2.compactChars) (level : Nat)
    (name : String) (value : Value) : Value.compactFields ((name, value) :: rest) =
      quoted name ++ ':' :: (value.compactChars ++ none.laterFields level rest) := by
  induction rest generalizing name value with
  | nil => rw [laterFields, List.append_nil, Value.compactFields]
  | cons next rest ih =>
    obtain ⟨other, part⟩ := next
    have held : none.chars level part = part.compactChars := same _ List.mem_cons_self level
    rw [Value.compactFields, ih fun field later => same field (List.mem_cons_of_mem _ later),
      laterFields, held]
    · simp [quoted, none]
    · exact List.cons_ne_nil _ _

theorem chars_none (value : Value) (level : Nat) : none.chars level value = value.compactChars := by
  induction value using Value.induction generalizing level with
  | array items parts =>
    cases items with
    | nil => rfl
    | cons first rest =>
      have later := compactItems_cons
        (fun item member => parts item (List.mem_cons_of_mem _ member)) (level + 1) first
      rw [Value.compactChars, later, chars, parts first List.mem_cons_self]
      simp [none]
  | object fields parts =>
    cases fields with
    | nil => rfl
    | cons first rest =>
      obtain ⟨name, value⟩ := first
      have held : none.chars (level + 1) value = value.compactChars :=
        parts _ List.mem_cons_self (level + 1)
      have later := compactFields_cons
        (fun field member => parts field (List.mem_cons_of_mem _ member)) (level + 1) name value
      rw [Value.compactChars, later, chars, held]
      simp [none, quoted]
  | _ => rfl

theorem laterItems_lines {items : List Value}
    (same : ∀ item ∈ items, ∀ level, lines.chars level item = item.prettyChars level)
    (level : Nat) : lines.laterItems level items = Value.prettyItems level items := by
  induction items with
  | nil => rfl
  | cons item rest ih =>
    rw [laterItems, same item List.mem_cons_self,
      ih fun item later => same item (List.mem_cons_of_mem _ later), Value.prettyItems,
      List.append_assoc]
    rfl

theorem laterFields_lines {fields : List (String × Value)}
    (same : ∀ field ∈ fields, ∀ level, lines.chars level field.2 = field.2.prettyChars level)
    (level : Nat) : lines.laterFields level fields = Value.prettyFields level fields := by
  induction fields with
  | nil => rfl
  | cons field rest ih =>
    obtain ⟨name, value⟩ := field
    have held : lines.chars level value = value.prettyChars level :=
      same _ List.mem_cons_self level
    rw [laterFields, held, ih fun field later => same field (List.mem_cons_of_mem _ later),
      Value.prettyFields]
    simp [lines, quoted]

theorem chars_lines (value : Value) (level : Nat) :
    lines.chars level value = value.prettyChars level := by
  induction value using Value.induction generalizing level with
  | array items parts =>
    cases items with
    | nil => rfl
    | cons first rest =>
      rw [chars, parts first List.mem_cons_self,
        laterItems_lines fun item member => parts item (List.mem_cons_of_mem _ member),
        Value.prettyChars]
      simp [lines]
  | object fields parts =>
    cases fields with
    | nil => rfl
    | cons first rest =>
      obtain ⟨name, value⟩ := first
      have held : lines.chars (level + 1) value = value.prettyChars (level + 1) :=
        parts _ List.mem_cons_self (level + 1)
      rw [chars, held,
        laterFields_lines fun field member => parts field (List.mem_cons_of_mem _ member),
        Value.prettyChars]
      simp [lines, quoted]
  | _ => rfl

end Spacing

section Texts

variable {value : Value} {blanks : List Char}

/-- The text on one line, with blanks behind it, is read as the value, its fields as they are
written. -/
theorem readDocument_compactChars (exactly : ∀ x ∈ value.reals, x.ReadExactly)
    (near : value.nesting ≤ maxNesting) (blank : Blanks blanks) :
    readDocument (value.compactChars ++ blanks) = .ok value :=
  Spacing.chars_none value 0 ▸ Spacing.none.readDocument exactly near blank

theorem readDocument_prettyChars (exactly : ∀ x ∈ value.reals, x.ReadExactly)
    (near : value.nesting ≤ maxNesting) (blank : Blanks blanks) :
    readDocument (value.prettyChars 0 ++ blanks) = .ok value :=
  Spacing.chars_lines value 0 ▸ Spacing.lines.readDocument exactly near blank

theorem readDocument_compact (exactly : ∀ x ∈ value.reals, x.ReadExactly)
    (near : value.nesting ≤ maxNesting) : readDocument value.compact.toList = .ok value := by
  rw [Value.compact, String.toList_ofList, ← List.append_nil value.compactChars]
  exact readDocument_compactChars exactly near blanks_nil

theorem parse_compact (sorted : value.Sorted) (exactly : ∀ x ∈ value.reals, x.ReadExactly)
    (near : value.nesting ≤ maxNesting) : parse value.compact = .ok value := by
  rw [parse, readDocument_compact exactly near]
  dsimp only
  rw [sorted.sorted_eq]

end Texts

end SchemaCheck.Json
