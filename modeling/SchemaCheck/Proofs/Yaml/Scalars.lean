import SchemaCheck.Proofs.Yaml.Tokens

/-!
Printed scalars. What is not printable has been escaped, so that a reader allows all characters of
printed text (`isAllowed_scalarLine`). However a scalar has been written, it becomes one token, and
behind it the next line is ahead (`Scanner.passes_text`).
-/

namespace SchemaCheck.Yaml

section Characters

variable {indent : Nat} {broken : Bool} {text : List Char} {c : Char}

theorem isAllowed_of_printable (printable : Writing.isPrintable c = true) :
    isAllowed c = true := by
  simp [Writing.isPrintable] at printable
  simp [isAllowed]
  omega

theorem mem_singleBody (member : c ∈ singleBody indent broken text) :
    c ∈ text ∨ c = ' ' ∨ c = '\'' := by
  induction text generalizing broken with
  | nil => cases broken <;> simp_all [singleBody, blanks]
  | cons d text ih =>
    rw [singleBody] at member
    split at member
    next =>
      rcases List.mem_cons.mp member with rfl | later
      · simp
      · grind
    next => cases broken <;> by_cases same : d = '\'' <;> simp_all [blanks] <;> grind

theorem mem_literalBody (member : c ∈ literalBody indent broken text) : c ∈ text ∨ c = ' ' := by
  induction text generalizing broken with
  | nil => simp [literalBody] at member
  | cons d text ih =>
    rw [literalBody] at member
    split at member
    next =>
      rcases List.mem_cons.mp member with rfl | later
      · simp
      · grind
    next => cases broken <;> simp_all [blanks] <;> grind

theorem isAllowed_hexadecimal {width n : Nat} (member : c ∈ Pen.hexadecimal width n) :
    isAllowed c = true := by
  have range := Text.toNat_of_isHexDigit (hexadecimal_all c member)
  simp [isAllowed]
  omega

theorem isAllowed_of_escaped (escaped : escaped? c ≠ none) : isAllowed c = true := by
  unfold escaped? at escaped
  split at escaped
  case h_19 => exact absurd rfl escaped
  all_goals decide

theorem isAllowed_doubleChar {d : Char} (member : c ∈ Pen.doubleChar d) : isAllowed c = true := by
  have number (letter : Char) (allowed : isAllowed letter = true) {width n : Nat}
      (member : c ∈ '\\' :: letter :: Pen.hexadecimal width n) : isAllowed c = true := by
    rcases List.mem_cons.mp member with rfl | member
    · decide
    · rcases List.mem_cons.mp member with rfl | digit
      · exact allowed
      · exact isAllowed_hexadecimal digit
  rw [Pen.doubleChar] at member
  split at member
  next plain =>
    simp only [Bool.and_eq_true] at plain
    rw [List.mem_singleton.mp member]
    exact isAllowed_of_printable plain.1.1.1
  next =>
    split at member
    next letter escape =>
      have known := (escaped?_escapeLetter escape).1
      have allowed : isAllowed letter = true := isAllowed_of_escaped (by simp [known])
      simp at member
      rcases member with rfl | rfl
      · decide
      · exact allowed
    next =>
      dsimp only at member
      split at member
      · exact number 'x' (by decide) member
      split at member
      · exact number 'u' (by decide) member
      · exact number 'U' (by decide) member

/-- What is not put in double quotes is printable. -/
theorem Writing.printable {s : String} (written : Writing.ofText s ≠ .double) :
    ∀ c ∈ s.toList, Writing.isPrintable c = true := by
  cases style : Writing.ofText s with
  | plain => exact (Plainly.of_allowsPlain (ofText_plain style).2).printable
  | single =>
    have allowed := (ofText_single style).2
    simp only [allowsSingle, needsDouble, Bool.not_eq_true', Bool.or_eq_false_iff,
      List.any_eq_false] at allowed
    simpa using allowed.1.1
  | double => exact absurd style written
  | literal =>
    have allowed := ofText_literal style
    simp only [allowsLiteral, needsDouble, Bool.not_eq_true', Bool.or_eq_false_iff,
      List.any_eq_false] at allowed
    simpa using allowed.1.2.1

theorem isAllowed_scalarLine {s : String} (member : c ∈ scalarLine indent s) :
    isAllowed c = true := by
  have printable (written : Writing.ofText s ≠ .double) {d : Char} (here : d ∈ s.toList) :
      isAllowed d = true := isAllowed_of_printable (Writing.printable written d here)
  rw [scalarLine] at member
  cases written : Writing.ofText s with
  | plain =>
    simp [written] at member
    rcases member with here | rfl
    · exact printable (by simp [written]) here
    · decide
  | single =>
    simp [written] at member
    rcases member with rfl | body | rfl | rfl
    · decide
    · rcases mem_singleBody body with here | rfl | rfl
      · exact printable (by simp [written]) here
      · decide
      · decide
    · decide
    · decide
  | double =>
    simp [written] at member
    rcases member with rfl | ⟨d, _, here⟩ | rfl | rfl
    · decide
    · exact isAllowed_doubleChar here
    · decide
    · decide
  | literal =>
    have hints : ∀ d ∈ (Pen.literalHints s.toList).toList, isAllowed d = true := by
      rw [literalHints_eq]
      cases chompingOf s.toList <;> split <;> exact List.all_eq_true.mp rfl
    have ending : ∀ d ∈ lineEnd s.toList, isAllowed d = true := by
      unfold lineEnd
      split <;> simp; decide
    simp [written] at member
    rcases member with rfl | hint | rfl | body | last
    · decide
    · exact hints c hint
    · decide
    · rcases mem_literalBody body with here | rfl
      · exact printable (by simp [written]) here
      · decide
    · exact ending c last

theorem isAllowed_flagLine (b : Bool) : ∀ c ∈ flagLine b, isAllowed c = true :=
  List.all_eq_true.mp (by cases b <;> decide)

theorem isAllowed_blanks (member : c ∈ blanks indent) : isAllowed c = true :=
  List.eq_of_mem_replicate member ▸ by decide

theorem isAllowed_fieldText {name : String} (word : KeyWord name) {content : List Char}
    (all : ∀ c ∈ content, isAllowed c = true) :
    ∀ c ∈ fieldText name content, isAllowed c = true := by
  intro c member
  rcases List.mem_append.mp member with letter | here
  · exact isAllowed_of_printable (Writing.printable (by simp [word.plain]) c letter)
  · rcases List.mem_cons.mp here with rfl | inside
    · decide
    · exact all c inside

theorem isAllowed_listLines {α : Type} {lines : α → List Char} {column : Nat}
    (all : ∀ item, ∀ c ∈ lines item, isAllowed c = true) (items : List α) :
    ∀ c ∈ listLines column lines items, isAllowed c = true := by
  intro c member
  rw [listLines] at member
  split at member
  · exact List.all_eq_true.mp (rfl : [' ', '[', ']', '\n'].all isAllowed = true) c member
  · rcases List.mem_cons.mp member with rfl | here
    · decide
    · obtain ⟨item, _, inside⟩ := List.mem_flatMap.mp here
      simp only [List.mem_append, List.mem_cons] at inside
      rcases inside with blank | rfl | rfl | line
      · exact isAllowed_blanks blank
      · decide
      · decide
      · exact all item c line

theorem isAllowed_textField {name : String} (word : KeyWord name) (indent : Nat) (s : String) :
    ∀ c ∈ fieldText name (' ' :: scalarLine indent s), isAllowed c = true :=
  isAllowed_fieldText word (List.forall_mem_cons.mpr ⟨by decide, fun _ => isAllowed_scalarLine⟩)

theorem isAllowed_flagField {name : String} (word : KeyWord name) (b : Bool) :
    ∀ c ∈ fieldText name (' ' :: flagLine b), isAllowed c = true :=
  isAllowed_fieldText word (List.forall_mem_cons.mpr ⟨by decide, isAllowed_flagLine b⟩)

theorem isAllowed_listField {α : Type} {lines : α → List Char} {name : String}
    (word : KeyWord name) (all : ∀ item, ∀ c ∈ lines item, isAllowed c = true) (column : Nat)
    (items : List α) : ∀ c ∈ fieldText name (listLines column lines items), isAllowed c = true :=
  isAllowed_fieldText word (isAllowed_listLines all items)

end Characters

namespace Scanner

section Starts

variable {s : Scanner} {mark : Mark} {c : Char} {rest : List Char}

theorem token_plain (cursor : s.cursor = ⟨mark, c :: rest⟩) (outside : s.inFlow = false)
    (solid : Solid c) (calm : c ∉ "#,[]\x7b\x7d&*!|>'\"%@`".toList)
    (goesOn : c = '-' ∨ c = '?' ∨ c = ':' → s.cursor.endsWord 1 = false)
    (apart : s.cursor.seesAnySeparator = false) : s.token = s.plain := by
  obtain ⟨noHyphens, noPoints⟩ := Bool.or_eq_false_iff.mp apart
  have first : s.cursor.at? 0 = some c := by simp [cursor, Cursor.at?]
  simp at calm
  have starts : s.startsPlain = true := by
    rw [startsPlain, first]
    by_cases hyphen : c = '-'
    · have next := goesOn (.inl hyphen)
      rw [Cursor.endsWord, Cursor.endsOr] at next
      cases second : s.cursor.at? 1 <;> simp_all [isBlank, isBreak]
    · by_cases other : c = '?' ∨ c = ':'
      · have next := goesOn (.inr other)
        rcases other with rfl | rfl <;> simp [next, outside, isBlank, isBreak]
      · obtain ⟨noQuestion, noColon⟩ := not_or.mp other
        simp [solid_iff.mp solid, hyphen, noQuestion, noColon, calm]
  have noIndicator (d : Char) (indicates : d = '-' ∨ d = '?' ∨ d = ':') :
      ¬(c = d ∧ s.cursor.endsWord 1 = true) := by
    rintro ⟨same, ends⟩
    exact absurd (goesOn (same ▸ indicates)) (by simp [ends])
  rw [token, first]
  simp [noHyphens, noPoints, calm, starts, outside, noIndicator]

theorem token_plainly {text : List Char} (plainly : Plainly [] text) (filled : text ≠ [])
    (cursor : s.cursor = ⟨mark, text ++ '\n' :: rest⟩) (outside : s.inFlow = false)
    (within : 0 < mark.column) : s.token = s.plain := by
  obtain ⟨c, text, rfl⟩ := List.exists_cons_of_ne_nil filled
  have calm := plainly.calm [] _ rfl
  simp only [Writing.indicates, List.reverse_nil, List.nil_append, List.isEmpty_nil, if_true,
    Bool.or_eq_false_iff] at calm
  obtain ⟨noIndicator, word⟩ := calm
  have solid : Solid c :=
    plainly.solid List.mem_cons_self fun same => plainly.first (by rw [same]; rfl)
  refine token_plain cursor outside solid (by simpa using noIndicator) (fun indicates => ?_) ?_
  · have more : Writing.endsWord text = false := by
      rcases indicates with rfl | rfl | rfl <;> simpa using word
    cases text with
    | nil => exact absurd more (by decide)
    | cons d text =>
      rw [cursor]
      simp_all [Writing.endsWord, Cursor.endsWord, Cursor.endsOr, Cursor.at?]
  · rw [cursor]
    exact Cursor.seesAnySeparator_within within

theorem token_quoted {single : Bool} (cursor : s.cursor = ⟨mark, quote single :: rest⟩) :
    s.token = s.quoted single := by
  cases single <;> simp [token, cursor, quote, Cursor.at?, Cursor.seesSeparator, Cursor.sees]

theorem token_block (cursor : s.cursor = ⟨mark, '|' :: rest⟩) (outside : s.inFlow = false) :
    s.token = s.block true := by
  simp [token, cursor, outside, Cursor.at?, Cursor.seesSeparator, Cursor.sees]

theorem token_dash (cursor : s.cursor = ⟨mark, '-' :: ' ' :: rest⟩) : s.token = s.blockEntry := by
  simp [token, cursor, Cursor.at?, Cursor.seesSeparator, Cursor.sees, Cursor.endsWord,
    Cursor.endsOr, isBlank]

theorem token_colon (cursor : s.cursor = ⟨mark, ':' :: c :: rest⟩) (gap : ¬Solid c) :
    s.token = s.value := by
  have ends : (isBlank c || isBreak c) = true := Bool.not_eq_false _ ▸ gap
  have word : s.cursor.endsWord 1 = true := by
    simpa [cursor, Cursor.endsWord, Cursor.endsOr, Cursor.at?] using ends
  simp [token, word]
  simp [cursor, Cursor.at?, Cursor.seesSeparator, Cursor.sees]

theorem token_opening (cursor : s.cursor = ⟨mark, '[' :: rest⟩) :
    s.token = s.flowStart .flowSequenceStart := by
  simp [token, cursor, Cursor.at?, Cursor.seesSeparator, Cursor.sees]

theorem token_closing (cursor : s.cursor = ⟨mark, ']' :: rest⟩) :
    s.token = s.flowEnd .flowSequenceEnd := by
  simp [token, cursor, Cursor.at?, Cursor.seesSeparator, Cursor.sees]

end Starts

section Scalars

variable {s r : Scanner} {allowed : Bool} {column count i : Nat} {text rest : List Char}
  {blocks : List Nat} {kinds : List Token.Kind} {kind : Token.Kind} {Q : Scanner → Prop}

/-- The scanner behind a token. -/
def emit (token : Token) (cursor : Cursor) (keyAllowed : Bool) (keys : List (Option PossibleKey))
    (s : Scanner) : Scanner :=
  { s with cursor, keyAllowed, keys, tokens := s.tokens.push token }

@[simp]
theorem kinds_emit (token : Token) (cursor : Cursor) (keyAllowed : Bool)
    (keys : List (Option PossibleKey)) :
    (s.emit token cursor keyAllowed keys).kinds = s.kinds ++ [token.kind] := by
  simp [kinds, emit]

theorem take_eq {mark : Mark} {c : Char} (cursor : s.cursor = ⟨mark, c :: rest⟩) :
    s.take 1 kind =
      s.emit ⟨kind, mark, mark.forward 1⟩ ⟨mark.forward 1, rest⟩ s.keyAllowed s.keys := by
  rw [take, cursor]
  rfl

theorem passes_token (inside : ∀ j ∈ blocks.head?, j ≤ column) (other : kind ≠ .streamEnd)
    (taken : ∀ r : Scanner, r.Arrived allowed column text blocks kinds →
      ∃ start stop cursor free keys, r.token = .ok (r.emit ⟨kind, start, stop⟩ cursor free keys) ∧
        (r.emit ⟨kind, start, stop⟩ cursor free keys).Idle ∧
        cursor.rest.length < text.length ∧
        ∀ keys, (r.emit ⟨kind, start, stop⟩ cursor free keys).Idle →
          Q (r.emit ⟨kind, start, stop⟩ cursor free keys)) :
    Passes (Next allowed column text blocks kinds) Q := by
  intro s next
  obtain ⟨r, reached, short, arrived⟩ := next.arrive inside
  obtain ⟨start, stop, cursor, free, keys, token, idle, shorter, holds⟩ := taken r arrived
  obtain ⟨keys, dropped, stillIdle⟩ := idle.dropStale
  exact ⟨_, .single (.of_token reached token dropped (kinds_emit ..) other
    (shorter.trans_le short)), holds keys stillIdle⟩

/-- Behind a scalar the next line is ahead, or has just been reached. -/
def EndsLine (count : Nat) (rest : List Char) (free : Bool) (cursor : Cursor) : Prop :=
  (free = true ∧ cursor.mark.column = count ∧ cursor.rest = rest) ∨
    cursor.rest = '\n' :: (blanks count ++ rest)

theorem passes_scalar {written : String} {style : ScalarStyle} (inside : i < column)
    (ahead : TokenAhead rest)
    (taken : ∀ r : Scanner, r.Arrived allowed column text (i :: blocks) kinds →
      ∃ start stop cursor free keys,
        r.token = .ok (r.emit ⟨.scalar written style, start, stop⟩ cursor free keys) ∧
          (r.emit ⟨.scalar written style, start, stop⟩ cursor free keys).Idle ∧
          cursor.rest.length < text.length ∧ EndsLine count rest free cursor) :
    Passes (Next allowed column text (i :: blocks) kinds)
      (Next true count rest (i :: blocks) (kinds ++ [.scalar written style])) := by
  have other : Token.Kind.scalar written style ≠ .streamEnd := by simp
  refine passes_token (fun j first => Option.some.inj first ▸ inside.le) other fun r arrived => ?_
  obtain ⟨start, stop, cursor, free, keys, token, idle, shorter, line⟩ := taken r arrived
  refine ⟨start, stop, cursor, free, keys, token, idle, shorter, fun keys still => ?_⟩
  have behind : (r.emit ⟨.scalar written style, start, stop⟩ cursor free keys).Arrived free
      cursor.mark.column cursor.rest (i :: blocks) (kinds ++ [.scalar written style]) :=
    ⟨still, rfl, rfl, rfl, arrived.within, by rw [kinds_emit, arrived.kinds]⟩
  rcases line with ⟨rfl, rfl, rfl⟩ | same
  · exact behind.next ahead
  · rw [same] at behind
    exact behind.line ahead

theorem Idle.saveKey (idle : r.Idle) (within : r.Within (i :: blocks))
    (deeper : i < r.cursor.mark.column) :
    ∃ keys, r.saveKey = .ok { r with keys } ∧ ({ r with keys } : Scanner).Idle := by
  by_cases allowed : r.keyAllowed = true
  · have indent := within.indent_eq
    have free : (r.indent == r.cursor.mark.column) = false := by
      rw [indent]
      simp
      omega
    refine ⟨[some ⟨false, r.tokens.size, r.cursor.mark⟩], ?_, _, rfl, ?_⟩
    · rw [Scanner.saveKey, idle.dropKey]
      simp [bind, Except.bind, pure, Except.pure, withKey, free, allowed]
    · rintro key ⟨rfl⟩
      rfl
  · refine ⟨r.keys, ?_, idle⟩
    rw [Scanner.saveKey, if_pos (by simp [allowed])]
    rfl

/-- A plain scalar up to the next line, which is not indented more than the blocks around. -/
theorem passes_plain (plainly : Plainly [] text) (filled : text ≠ []) (inside : i < column)
    (less : count ≤ i) (ahead : TokenAhead rest) :
    Passes (Next allowed column (text ++ '\n' :: (blanks count ++ rest)) (i :: blocks) kinds)
      (Next true count rest (i :: blocks) (kinds ++ [.scalar (String.ofList text) .plain])) := by
  refine passes_scalar inside ahead fun r arrived => ?_
  have deeper : i < r.cursor.mark.column := arrived.column ▸ inside
  have cursor : r.cursor = ⟨r.cursor.mark, text ++ '\n' :: (blanks count ++ rest)⟩ := by
    rw [← arrived.rest]
  have indent : (r.indent + 1).toNat = i + 1 := by
    rw [arrived.within.indent_eq]
    simp
  -- Whether a key may start here or not, the scalar is none, as no colon follows on its line.
  obtain ⟨keys, saved, idle⟩ := arrived.idle.saveKey arrived.within deeper
  have scanned : scanPlain false (i + 1) ⟨r.cursor.mark, _⟩ = _ :=
    scanPlain_line (.of_plainly plainly filled) deeper (Nat.lt_succ_of_le less) ahead.solid
  rw [← cursor] at scanned
  refine ⟨r.cursor.mark, r.cursor.mark.forward text.length,
    ⟨(r.cursor.mark.forward text.length).nextLine.forward count, rest⟩, true, keys, ?_, idle, ?_,
    .inl ⟨rfl, by simp, rfl⟩⟩
  · rw [token_plainly plainly filled cursor arrived.idle.outside (Nat.zero_lt_of_lt deeper),
      Scanner.plain, saved]
    simp only [bind, Except.bind, idle.outside, indent, scanned]
    rfl
  · simp [blanks]
    omega

theorem passes_quoted {single : Bool} {written : List Char}
    (quoted : Quoted single false text written) (inside : i < column) (ahead : TokenAhead rest) :
    Passes
      (Next allowed column (quote single :: (written ++ quote single :: '\n' ::
        (blanks count ++ rest))) (i :: blocks) kinds)
      (Next true count rest (i :: blocks) (kinds ++ [.scalar (String.ofList text) .other])) := by
  refine passes_scalar inside ahead fun r arrived => ?_
  have deeper : i < r.cursor.mark.column := arrived.column ▸ inside
  have cursor : r.cursor = ⟨r.cursor.mark, quote single :: (written ++ quote single :: '\n' ::
      (blanks count ++ rest))⟩ := by
    rw [← arrived.rest]
  have once : ('\n' :: (blanks count ++ rest)).head? ≠ some (quote single) := by
    cases single <;> simp [quote]
  obtain ⟨keys, saved, idle⟩ := arrived.idle.saveKey arrived.within deeper
  obtain ⟨last, scanned⟩ : ∃ last, scanQuoted single ⟨r.cursor.mark, _⟩ = _ :=
    scanQuoted_quoted quoted once
  rw [← cursor] at scanned
  refine ⟨r.cursor.mark, last, ⟨last, '\n' :: (blanks count ++ rest)⟩, false, keys, ?_, idle, ?_,
    .inr rfl⟩
  · rw [token_quoted cursor, Scanner.quoted, keyLike, saved]
    simp only [bind, Except.bind, scanned]
    rfl
  · simp
    omega

theorem passes_literal (printable : ∀ c ∈ text, Writing.isPrintable c = true)
    (filled : text ≠ []) (inside : i < column) (less : count ≤ i) (ahead : TokenAhead rest) :
    Passes
      (Next allowed column ('|' :: ((Pen.literalHints text).toList ++ '\n' ::
        (literalBody (i + 2) true text ++ (lineEnd text ++ (blanks count ++ rest)))))
        (i :: blocks) kinds)
      (Next true count rest (i :: blocks) (kinds ++ [.scalar (String.ofList text) .literal])) := by
  refine passes_scalar inside ahead fun r arrived => ?_
  have indent := arrived.within.indent_eq
  have deeper : i + 2 = r.indent.toNat + 2 := by omega
  have cursor : r.cursor = ⟨r.cursor.mark, _⟩ := congrArg (Cursor.mk r.cursor.mark) arrived.rest
  obtain ⟨last, outside, scanned⟩ : ∃ last : Mark, last.column = count ∧
      scanBlock true r.indent ⟨r.cursor.mark, _⟩ = _ :=
    scanBlock_literal (by omega) deeper printable filled (by omega) ahead.solid
  rw [← cursor] at scanned
  refine ⟨r.cursor.mark, last, ⟨last, rest⟩, true, [none], ?_, .of_none rfl, ?_,
    .inl ⟨rfl, outside, rfl⟩⟩
  · rw [token_block cursor arrived.idle.outside, block, arrived.idle.dropKey]
    simp only [bind, Except.bind, scanned]
    rfl
  · simp
    omega

theorem passes_text (s : String) (inside : i < column) (less : count ≤ i)
    (ahead : TokenAhead rest) :
    Passes
      (Next allowed column (scalarLine (i + 2) s ++ (blanks count ++ rest)) (i :: blocks) kinds)
      (Next true count rest (i :: blocks) (kinds ++ [textKind s])) := by
  have same : String.ofList s.toList = s := String.ofList_toList
  rw [scalarLine, textKind]
  cases written : Writing.ofText s with
  | plain =>
    have passed : Passes (Next allowed column (s.toList ++ '\n' :: (blanks count ++ rest))
        (i :: blocks) kinds) _ :=
      passes_plain (.of_allowsPlain (Writing.ofText_plain written).2)
        (Writing.ne_empty_of_plain written) inside less ahead
    simpa [same] using passed
  | single =>
    obtain ⟨noFeed, allowed⟩ := Writing.ofText_single written
    simp only [Writing.allowsSingle, Writing.needsDouble, Bool.not_eq_true',
      Bool.or_eq_false_iff] at allowed
    obtain ⟨⟨_, front⟩, behind⟩ := allowed
    have printable : ∀ c ∈ s.toList, Writing.isPrintable c = true :=
      Writing.printable (by simp [written])
    have quoted : Quoted true false s.toList (singleBody (i + 2) false s.toList) :=
      .ofSingle (by omega) printable noFeed front behind fun start =>
        absurd start Bool.false_ne_true
    have passed : Passes (Next allowed column (quote true :: (singleBody (i + 2) false s.toList ++
        quote true :: '\n' :: (blanks count ++ rest))) (i :: blocks) kinds) _ :=
      passes_quoted quoted inside ahead
    simpa [same, quote] using passed
  | double =>
    have passed : Passes (Next allowed column (quote false :: (s.toList.flatMap Pen.doubleChar ++
        quote false :: '\n' :: (blanks count ++ rest))) (i :: blocks) kinds) _ :=
      passes_quoted (.ofDouble s.toList) inside ahead
    simpa [same, quote] using passed
  | literal =>
    have allows := Writing.ofText_literal written
    have printable : ∀ c ∈ s.toList, Writing.isPrintable c = true :=
      Writing.printable (by simp [written])
    have filled : s.toList ≠ [] := by
      rintro empty
      simp [Writing.allowsLiteral, empty] at allows
    have passed : Passes (Next allowed column ('|' :: ((Pen.literalHints s.toList).toList ++
        '\n' :: (literalBody (i + 2) true s.toList ++ (lineEnd s.toList ++
          (blanks count ++ rest))))) (i :: blocks) kinds) _ :=
      passes_literal printable filled inside less ahead
    simpa [same] using passed

theorem passes_flag (b : Bool) (inside : i < column) (less : count ≤ i)
    (ahead : TokenAhead rest) :
    Passes (Next allowed column (flagLine b ++ (blanks count ++ rest)) (i :: blocks) kinds)
      (Next true count rest (i :: blocks) (kinds ++ [flagKind b])) := by
  have plainly : Plainly [] (if b then "true" else "false").toList :=
    .of_allowsPlain (by cases b <;> decide)
  have filled : (if b then "true" else "false").toList ≠ [] := by cases b <;> decide
  have passed : Passes (Next allowed column ((if b then "true" else "false").toList ++
      '\n' :: (blanks count ++ rest)) (i :: blocks) kinds) _ :=
    passes_plain plainly filled inside less ahead
  simpa [flagLine, flagKind] using passed

end Scalars

end Scanner

end SchemaCheck.Yaml
