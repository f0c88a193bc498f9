import SchemaCheck.Proofs.Json.Spacing

/-!
How far reading reaches. What is read nests no deeper than the reader may go, and a reader that may
go deeper reads the same, so the text of a value that nests too deep is not read
(`parse_tooDeep`). A string is shorter than the text from which it is read (`parse_string_shorter`).
-/

namespace SchemaCheck.Json

section Inversion

variable {ε α β : Type}

theorem bind_eq_ok {read : Except ε α} {next : α → Except ε β} {result : β} :
    read >>= next = .ok result ↔ ∃ found, read = .ok found ∧ next found = .ok result := by
  cases read with
  | ok found => exact ⟨fun done => ⟨found, rfl, done⟩, fun ⟨_, rfl, done⟩ => done⟩
  | error stop => exact ⟨nofun, fun ⟨_, same, _⟩ => nomatch same⟩

theorem map_eq_ok {read : Except ε α} {change : α → β} {result : β} :
    read.map change = .ok result ↔ ∃ found, read = .ok found ∧ change found = result := by
  cases read with
  | ok found =>
    refine ⟨fun done => ⟨found, rfl, Except.ok.inj done⟩, ?_⟩
    rintro ⟨_, same, rfl⟩
    rw [← Except.ok.inj same]
    rfl
  | error stop => exact ⟨nofun, fun ⟨_, same, _⟩ => nomatch same⟩

variable {text rest : List Char} {value : Value}

theorem readScalar_cases (read : readScalar text = .ok (value, rest)) :
    value = .null ∨ (∃ b, value = .bool b) ∨ (∃ n, value = .number n) ∨
      ∃ behind held, text = '"' :: behind ∧ readString behind = .ok (held, rest) ∧
        value = .string held := by
  unfold readScalar at read
  split at read
  next => cases read
  next =>
    obtain ⟨_, _, made⟩ := map_eq_ok.mp read
    exact .inl (Prod.mk.inj made).1.symm
  next =>
    obtain ⟨_, _, made⟩ := map_eq_ok.mp read
    exact .inr (.inl ⟨true, (Prod.mk.inj made).1.symm⟩)
  next =>
    obtain ⟨_, _, made⟩ := map_eq_ok.mp read
    exact .inr (.inl ⟨false, (Prod.mk.inj made).1.symm⟩)
  next =>
    obtain ⟨_, _, made⟩ := map_eq_ok.mp read
    exact .inr (.inr (.inl ⟨_, (Prod.mk.inj made).1.symm⟩))
  next behind =>
    obtain ⟨⟨held, left⟩, chars, made⟩ := map_eq_ok.mp read
    obtain ⟨rfl, rfl⟩ := Prod.mk.inj made
    exact .inr (.inr (.inr ⟨behind, held, rfl, chars, rfl⟩))
  next =>
    split at read
    next =>
      obtain ⟨_, _, made⟩ := map_eq_ok.mp read
      exact .inr (.inr (.inl ⟨_, (Prod.mk.inj made).1.symm⟩))
    next => cases read

theorem nesting_readScalar (read : readScalar text = .ok (value, rest)) : value.nesting = 0 := by
  rcases readScalar_cases read with rfl | ⟨b, rfl⟩ | ⟨n, rfl⟩ | ⟨_, held, _, _, rfl⟩ <;> rfl

variable {fuel depth : Nat}

theorem readValue_cases (read : readValue (fuel + 1) depth text = .ok (value, rest)) :
    (∃ behind less items, skipSpace text = '[' :: behind ∧ depth = less + 1 ∧
      readItems fuel less true behind = .ok (items, rest) ∧ value = .array items) ∨
    (∃ behind less fields, skipSpace text = '\x7b' :: behind ∧ depth = less + 1 ∧
      readFields fuel less true behind = .ok (fields, rest) ∧ value = .object fields) ∨
    readScalar (skipSpace text) = .ok (value, rest) ∧
      ∀ deeper, readValue (fuel + 1) deeper text = readScalar (skipSpace text) := by
  rw [readValue] at read
  split at read
  next behind opens =>
    cases depth with
    | zero => cases read
    | succ less =>
      obtain ⟨⟨items, left⟩, inner, made⟩ := bind_eq_ok.mp read
      cases made
      exact .inl ⟨behind, less, items, opens, rfl, inner, rfl⟩
  next behind opens =>
    cases depth with
    | zero => cases read
    | succ less =>
      obtain ⟨⟨fields, left⟩, inner, made⟩ := bind_eq_ok.mp read
      cases made
      exact .inr (.inl ⟨behind, less, fields, opens, rfl, inner, rfl⟩)
  next notBracket notBrace =>
    refine .inr (.inr ⟨read, fun deeper => ?_⟩)
    rw [readValue]
    split
    next behind opens => exact absurd opens (notBracket behind)
    next behind opens => exact absurd opens (notBrace behind)
    next => rfl

end Inversion

section Depth

/-- What is read at some depth nests no deeper, and is read at every greater depth as well. -/
def Bounded {α : Type} (nesting : α → Nat)
    (read : Nat → List Char → Except (Stop Fault) (α × List Char)) : Prop :=
  ∀ {depth : Nat} {text : List Char} {found : α} {rest : List Char},
    read depth text = .ok (found, rest) →
      nesting found ≤ depth ∧ ∀ deeper, depth ≤ deeper → read deeper text = .ok (found, rest)

/-- What is to be shown of the readers, with as many steps as they are allowed. -/
structure AllBounded (fuel : Nat) : Prop where
  value : Bounded Value.nesting (readValue fuel)
  items : ∀ first, Bounded Value.nestingOfItems fun depth => readItems fuel depth first
  fields : ∀ first, Bounded Value.nestingOfFields fun depth => readFields fuel depth first

variable {fuel : Nat}

theorem bounded_readValue (below : AllBounded fuel) :
    Bounded Value.nesting (readValue (fuel + 1)) := by
  intro depth text found rest read
  rcases readValue_cases read with ⟨behind, less, items, opens, rfl, inner, rfl⟩ |
    ⟨behind, less, fields, opens, rfl, inner, rfl⟩ | ⟨scalar, anyDepth⟩
  · obtain ⟨near, innerDeeper⟩ := below.items true inner
    refine ⟨Nat.succ_le_succ near, fun deeper above => ?_⟩
    obtain ⟨more, rfl⟩ : ∃ more, deeper = more + 1 := Nat.exists_eq_succ_of_ne_zero (by omega)
    exact readValue_array opens (innerDeeper more (Nat.le_of_succ_le_succ above))
  · obtain ⟨near, innerDeeper⟩ := below.fields true inner
    refine ⟨Nat.succ_le_succ near, fun deeper above => ?_⟩
    obtain ⟨more, rfl⟩ : ∃ more, deeper = more + 1 := Nat.exists_eq_succ_of_ne_zero (by omega)
    exact readValue_object opens (innerDeeper more (Nat.le_of_succ_le_succ above))
  · have flat := nesting_readScalar scalar
    exact ⟨by omega, fun deeper _ => (anyDepth deeper).trans scalar⟩

theorem bounded_readItems (below : AllBounded fuel) (first : Bool) :
    Bounded Value.nestingOfItems fun depth => readItems (fuel + 1) depth first := by
  intro depth text found rest (read : readItems (fuel + 1) depth first text = _)
  rw [readItems] at read
  obtain ⟨ahead, goesOn, read⟩ := bind_eq_ok.mp read
  cases ahead with
  | none =>
    cases read
    refine ⟨Nat.zero_le _, fun deeper _ => ?_⟩
    change readItems (fuel + 1) deeper first text = _
    rw [readItems, goesOn]
    rfl
  | some behind =>
    obtain ⟨⟨item, left⟩, one, read⟩ := bind_eq_ok.mp read
    obtain ⟨⟨others, last⟩, later, read⟩ := bind_eq_ok.mp read
    cases read
    obtain ⟨near, oneDeeper⟩ := below.value one
    obtain ⟨nearOthers, laterDeeper⟩ := below.items false later
    refine ⟨Nat.max_le.mpr ⟨near, nearOthers⟩, fun deeper above => ?_⟩
    exact readItems_next goesOn (oneDeeper deeper above) (laterDeeper deeper above)

theorem bounded_readFields (below : AllBounded fuel) (first : Bool) :
    Bounded Value.nestingOfFields fun depth => readFields (fuel + 1) depth first := by
  intro depth text found rest (read : readFields (fuel + 1) depth first text = _)
  rw [readFields] at read
  obtain ⟨ahead, goesOn, read⟩ := bind_eq_ok.mp read
  cases ahead with
  | none =>
    cases read
    refine ⟨Nat.zero_le _, fun deeper _ => ?_⟩
    change readFields (fuel + 1) deeper first text = _
    rw [readFields, goesOn]
    rfl
  | some behind =>
    obtain ⟨⟨name, colon⟩, key, read⟩ := bind_eq_ok.mp read
    obtain ⟨⟨_, start⟩, mark, read⟩ := bind_eq_ok.mp read
    obtain ⟨⟨value, left⟩, one, read⟩ := bind_eq_ok.mp read
    obtain ⟨⟨others, last⟩, later, read⟩ := bind_eq_ok.mp read
    cases read
    obtain ⟨near, oneDeeper⟩ := below.value one
    obtain ⟨nearOthers, laterDeeper⟩ := below.fields false later
    refine ⟨Nat.max_le.mpr ⟨near, nearOthers⟩, fun deeper above => ?_⟩
    exact readFields_next goesOn key mark (oneDeeper deeper above) (laterDeeper deeper above)

theorem allBounded (fuel : Nat) : AllBounded fuel := by
  induction fuel with
  | zero => exact { value := nofun, items := fun _ => nofun, fields := fun _ => nofun }
  | succ fuel below =>
    exact ⟨bounded_readValue below, bounded_readItems below, bounded_readFields below⟩

theorem parse_tooDeep {value : Value} (exactly : ∀ x ∈ value.reals, x.ReadExactly)
    (tooDeep : maxNesting < value.nesting) : parse? value.compact = none := by
  have unread : ∀ found rest,
      readValue (stepsFor value.compactChars) maxNesting value.compactChars ≠
        .ok (found, rest) := by
    intro found rest read
    obtain ⟨near, deeper⟩ := (allBounded _).value read
    have same := deeper value.nesting (Nat.le_of_lt tooDeep)
    have back := Spacing.none.readsBack value exactly 0 (stepsFor value.compactChars) value.nesting
      []
    rw [Spacing.chars_none, List.append_nil] at back
    rw [back (Nat.le_add_right _ 2) (Nat.le_refl _) delimited_nil] at same
    cases same
    omega
  rw [parse?, parse, readDocument, Value.compact, String.toList_ofList]
  cases read : readValue (stepsFor value.compactChars) maxNesting value.compactChars with
  | ok result => exact absurd read (unread result.1 result.2)
  | error stop => rfl

end Depth

section Strings

variable {text rest : List Char}

theorem push_eq_ok {ε : Type} {c : Char} {read : Outcome ε (List Char)} {chars : List Char} :
    push c read = .ok (chars, rest) ↔ ∃ more, read = .ok (more, rest) ∧ chars = c :: more := by
  unfold push
  constructor
  · intro pushed
    split at pushed
    next more left =>
      cases pushed
      exact ⟨more, rfl, rfl⟩
    next => cases pushed
  · rintro ⟨more, rfl, rfl⟩
    rfl

/-- A character is put in front of what is read from at least one character less. -/
theorem push_shorter {c : Char} {next : StringState} {chars : List Char}
    (shorter : ∀ {more}, readChars next text = .ok (more, rest) →
      more.length + rest.length < text.length)
    (read : push c (readChars next text) = .ok (chars, rest)) :
    chars.length + rest.length < text.length + 1 := by
  obtain ⟨more, inner, rfl⟩ := push_eq_ok.mp read
  have before := shorter inner
  rw [List.length_cons]
  omega

theorem readChars_shorter {state : StringState} {chars : List Char}
    (read : readChars state text = .ok (chars, rest)) :
    chars.length + rest.length < text.length := by
  fun_induction readChars state text generalizing chars
  -- The closing quote; a character that stands for itself or ends an escape; a character inside an
  -- escape. In all other cases reading stops.
  case case2 left =>
    cases read
    rw [List.length_nil, List.length_cons]
    omega
  case case5 ih | case6 ih | case13 ih => exact push_shorter ih read
  case case3 ih | case9 ih | case11 ih | case14 ih | case15 ih | case19 ih =>
    exact Nat.lt_succ_of_lt (ih read)
  all_goals cases read

theorem readValue_string {fuel depth : Nat} {held : String}
    (read : readValue fuel depth text = .ok (.string held, rest)) :
    ∃ behind, skipSpace text = '"' :: behind ∧ readString behind = .ok (held, rest) := by
  cases fuel with
  | zero => cases read
  | succ fuel =>
    rcases readValue_cases read with
      ⟨_, _, _, _, _, _, same⟩ | ⟨_, _, _, _, _, _, same⟩ | ⟨scalar, _⟩
    · cases same
    · cases same
    rcases readScalar_cases scalar with same | ⟨_, same⟩ | ⟨_, same⟩ |
      ⟨behind, _, opens, chars, same⟩
    · cases same
    · cases same
    · cases same
    · cases same
      exact ⟨behind, opens, chars⟩

theorem parse?_eq_some {text : String} {value : Value} (read : parse? text = some value) :
    ∃ found rest, readValue (stepsFor text.toList) maxNesting text.toList = .ok (found, rest) ∧
      skipSpace rest = [] ∧ value = found.sorted := by
  unfold parse? parse at read
  split at read
  next _ document =>
    obtain ⟨⟨found, rest⟩, start, ended⟩ := bind_eq_ok.mp document
    obtain ⟨_, finish, made⟩ := bind_eq_ok.mp ended
    cases made
    refine ⟨_, rest, start, ?_, (Option.some.inj read).symm⟩
    unfold readEnd at finish
    split at finish
    next left => exact left
    next => cases finish
  next => cases read

/-- A string is shorter than the text from which it is read. -/
theorem parse_string_shorter {text held : String} (read : parse? text = some (.string held)) :
    held.toList.length < text.toList.length := by
  obtain ⟨value, left, start, _, same⟩ := parse?_eq_some read
  cases value <;> cases same
  obtain ⟨behind, opens, string⟩ := readValue_string start
  have within : (skipSpace text.toList).length ≤ text.toList.length :=
    (List.dropWhile_sublist _).length_le
  unfold readString at string
  split at string
  next chars _ inner =>
    cases string
    have shorter := readChars_shorter inner
    rw [opens, List.length_cons] at within
    rw [String.toList_ofList]
    omega
  next => cases string

end Strings

end SchemaCheck.Json
