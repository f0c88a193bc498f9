import SchemaCheck.Proofs.Yaml.Scalars

/-!
The tokens of printed collections. A key opens a block mapping, unless it stands where one does, and
what lies deeper ends there; the dashes of a list stand where the mapping around them does. A text
that is one mapping ends with it (`TokenStream.ofText_passes`).
-/

namespace SchemaCheck.Yaml

namespace Scanner

section Collections

variable {s r : Scanner} {allowed : Bool} {column count i : Nat} {text rest : List Char}
  {blocks : List Nat} {kinds : List Token.Kind}

/-- A dash that stands where its mapping does starts no block of its own. -/
theorem passes_dash : Passes (Next true column ('-' :: ' ' :: rest) (column :: blocks) kinds)
    (Arrived true (column + 1) (' ' :: rest) (column :: blocks) (kinds ++ [.blockEntry])) := by
  have other : Token.Kind.blockEntry ≠ .streamEnd := by simp
  refine passes_token (fun j first => Option.some.inj first ▸ Nat.le_refl _) other
    fun r arrived => ?_
  have cursor : r.cursor = ⟨r.cursor.mark, _⟩ := congrArg (Cursor.mk r.cursor.mark) arrived.rest
  have indent := arrived.within.indent_eq
  have stays : r.openHere .blockSequenceStart = r := by
    rw [openHere, openBlock, if_neg]
    simp [indent, arrived.column]
  refine ⟨r.cursor.mark, r.cursor.mark.forward 1, ⟨r.cursor.mark.forward 1, ' ' :: rest⟩, true,
    [none], ?_, .of_none rfl, by simp, fun keys still =>
      ⟨still, rfl, ?_, rfl, arrived.within, by rw [kinds_emit, arrived.kinds]⟩⟩
  · have free (problem : String) : r.refuseUnless (r.inFlow || r.keyAllowed) problem = .ok () := by
      simp [refuseUnless, arrived.allowed]
    rw [token_dash cursor, blockEntry, free, stays, arrived.idle.dropKey]
    exact congrArg Except.ok (take_eq (s := { r with keys := [none], keyAllowed := true }) cursor)
  · exact congrArg (· + 1) arrived.column

/-- A key opens a block mapping, unless it stands where one does: the block collections around its
value, and what is in front of it. -/
def opened (column : Nat) (blocks : List Nat) : List Nat × List Token.Kind :=
  if blocks.head? = some column then (blocks, []) else (column :: blocks, [.blockMappingStart])

theorem openBlock_eq {front back : List Token.Kind} (within : s.Within blocks)
    (outside : s.inFlow = false) (inside : ∀ j ∈ blocks.head?, j ≤ column)
    (split : s.kinds = front ++ back) (mark : Mark) :
    ∃ indent indents tokens,
      s.openBlock column front.length .blockMappingStart mark = { s with indent, indents, tokens } ∧
        ({ s with indent, indents, tokens } : Scanner).Within (opened column blocks).1 ∧
        ({ s with indent, indents, tokens } : Scanner).kinds =
          front ++ (opened column blocks).2 ++ back := by
  rw [opened, openBlock, outside]
  by_cases same : blocks.head? = some column
  · have indent : s.indent = column := by
      cases blocks with
      | nil => exact nomatch same
      | cons j blocks =>
        rw [within.indent_eq]
        exact congrArg Nat.cast (Option.some.inj same)
    refine ⟨s.indent, s.indents, s.tokens, ?_, ?_, ?_⟩
    · rw [if_neg (by simp [indent])]
    · rw [if_pos same]
      exact within
    · rw [if_pos same, List.append_nil]
      exact split
  · have deeper : s.indent < column := by
      refine Int.lt_iff_le_and_ne.mpr ⟨within.indent_le inside, fun equal => ?_⟩
      cases blocks with
      | nil =>
        have least : s.indent = -1 := (List.cons.inj within).1
        omega
      | cons j blocks =>
        rw [within.indent_eq] at equal
        exact same (congrArg some (Int.ofNat.inj equal))
    refine ⟨column, s.indent :: s.indents, (s.insert front.length .blockMappingStart mark).tokens,
      ?_, ?_, ?_⟩
    · rw [if_pos (by simpa using deeper)]
      rfl
    · rw [if_neg same]
      have around : s.indent :: s.indents = _ := within
      exact congrArg ((column : Int) :: ·) around
    · rw [if_neg same]
      exact (kinds_insert split mark).trans (by simp)

theorem dropStale_fresh {key : PossibleKey} (keys : s.keys = [some key])
    (fresh : s.isStale key = false) : s.dropStale = .ok s := by
  have kept : s.giveUp s.isStale (some key) = .ok (some key) := by simp [giveUp, fresh]
  have same : { s with keys := [some key] } = s := by rw [← keys]
  rw [dropStale, keys]
  simp [kept, bind, Except.bind, pure, Except.pure, same]

theorem token_key {name : String} (word : KeyWord name) {mark : Mark}
    (cursor : s.cursor = ⟨mark, name.toList ++ rest⟩) (outside : s.inFlow = false) :
    s.token = s.plain := by
  have apart : s.cursor.seesAnySeparator = false := by
    rw [cursor]
    exact word.apart mark rest
  obtain ⟨c, text, shape⟩ := List.exists_cons_of_ne_nil word.filled
  have first : c ∈ name.toList := shape ▸ List.mem_cons_self
  rw [shape] at cursor
  refine token_plain cursor outside (word.solid c first) (fun member => ?_) ?_ apart
  · have signs : "#,[]\x7b\x7d&*!|>'\"%@`".toList.all (!·.isAlpha) = true := by decide
    exact word.other first (by simpa using List.all_eq_true.mp signs c member) rfl
  · rintro (same | same | same)
    all_goals exact absurd same (word.other first (by decide))

section Brackets

variable {key : Option PossibleKey} {mark : Mark}

theorem dropStale_inner (keys : s.keys = [none, key]) (optional : ∀ k ∈ key, k.required = false) :
    ∃ left, s.dropStale = .ok { s with keys := [none, left] } ∧
      ∀ k ∈ left, k.required = false := by
  obtain ⟨left, given, which⟩ := giveUp_optional (s := s) optional s.isStale
  refine ⟨left, ?_, ?_⟩
  · have inner : s.giveUp s.isStale none = .ok none := rfl
    rw [dropStale, keys]
    simp [given, inner, bind, Except.bind, pure, Except.pure]
  · rcases which with rfl | rfl
    · exact optional
    · exact optional_none

theorem reach_inner (keys : s.keys = [none, key]) (optional : ∀ k ∈ key, k.required = false)
    (cursor : s.cursor = ⟨mark, rest⟩) (ahead : TokenAhead rest) :
    ∃ left, s.reach = .ok { s with keys := [none, left] } ∧ ∀ k ∈ left, k.required = false := by
  have here : s.cursor = ⟨mark, blanks 0 ++ rest⟩ := cursor
  have passed := skipGap_blanks here ahead s.cursor.rest.length
  have same : { s with cursor := ⟨mark.forward 0, rest⟩ } = s := by
    rw [Mark.forward_zero, ← cursor]
  obtain ⟨left, dropped, free⟩ := dropStale_inner keys optional
  refine ⟨left, ?_, free⟩
  rw [reach, passed, same, dropped]
  rfl

theorem passes_brackets (inside : i ≤ column) (ahead : TokenAhead rest) :
    Passes (Next false column ('[' :: ']' :: '\n' :: (blanks count ++ rest)) (i :: blocks) kinds)
      (Next true count rest (i :: blocks)
        (kinds ++ [.flowSequenceStart, .flowSequenceEnd])) := by
  intro s next
  obtain ⟨r, reached, short, arrived⟩ := next.arrive fun j first => Option.some.inj first ▸ inside
  obtain ⟨key, keys, optional⟩ := arrived.idle
  let line := '\n' :: (blanks count ++ rest)
  have cursor : r.cursor = ⟨r.cursor.mark, '[' :: ']' :: line⟩ :=
    congrArg (Cursor.mk r.cursor.mark) arrived.rest
  let between := r.cursor.mark.forward 1
  let t := r.emit ⟨.flowSequenceStart, r.cursor.mark, between⟩ ⟨between, ']' :: line⟩ true
    [none, key]
  -- Inside the brackets, what may be a key outside of them is remembered further out.
  have opening : r.token = .ok t := by
    have saved : r.saveKey = .ok r := by
      rw [saveKey, if_pos (by simp [arrived.allowed])]
      rfl
    rw [token_opening cursor, flowStart, saved]
    refine congrArg Except.ok ?_
    rw [keys]
    exact take_eq (s := { r with keys := [none, key], keyAllowed := true }) cursor
  obtain ⟨left, dropped, free⟩ := dropStale_inner (rfl : t.keys = [none, key]) optional
  have first : Step s { t with keys := [none, left] } := by
    refine .of_token reached opening dropped (kinds_emit ..) (by simp) ?_
    simp at short
    simp [t, emit, line]
    omega
  have bracket : TokenAhead (']' :: line) := tokenAhead_cons.mpr (by decide)
  obtain ⟨later, reach, stillFree⟩ :=
    reach_inner (s := { t with keys := [none, left] }) rfl free rfl bracket
  let u := t.emit ⟨.flowSequenceEnd, between, between.forward 1⟩ ⟨between.forward 1, line⟩ false
    [later]
  let v : Scanner := { t with keys := [none, later] }
  have closing : v.token = .ok u := by
    rw [token_closing (rfl : v.cursor = ⟨between, ']' :: line⟩)]
    exact congrArg Except.ok (take_eq (s := { v with keys := [later], keyAllowed := false }) rfl)
  have idle : u.Idle := ⟨later, rfl, stillFree⟩
  obtain ⟨keys, dropped, stillIdle⟩ := idle.dropStale
  have second : Step { t with keys := [none, left] } { u with keys } :=
    .of_token reach closing dropped (kinds_emit ..) (by simp) (Nat.lt_succ_self _)
  have behind : ({ u with keys } : Scanner).Arrived false _ line (i :: blocks)
      (kinds ++ [.flowSequenceStart] ++ [.flowSequenceEnd]) :=
    ⟨stillIdle, rfl, rfl, rfl, arrived.within, by
      rw [← arrived.kinds]
      exact (kinds_emit ..).trans (congrArg (· ++ [_]) (kinds_emit ..))⟩
  refine ⟨_, .head first (.single second), ?_⟩
  rw [List.append_assoc] at behind
  exact behind.line ahead

end Brackets

section Keys

variable {name : String} {c d : Char} {key : PossibleKey} {mark : Mark}

theorem scan_key (word : KeyWord name) (gap : ¬Solid d)
    (arrived : r.Arrived true column (name.toList ++ ':' :: d :: rest) blocks kinds) :
    ∃ required, r.token = .ok (r.emit
      ⟨.scalar name .plain, r.cursor.mark, r.cursor.mark.forward name.toList.length⟩
      ⟨r.cursor.mark.forward name.toList.length, ':' :: d :: rest⟩ false
      [some ⟨required, r.tokens.size, r.cursor.mark⟩]) := by
  have cursor : r.cursor = ⟨r.cursor.mark, name.toList ++ ':' :: d :: rest⟩ :=
    congrArg (Cursor.mk r.cursor.mark) arrived.rest
  have saved : r.saveKey = .ok { r with
      keys := [some ⟨r.indent == r.cursor.mark.column, r.tokens.size, r.cursor.mark⟩] } := by
    rw [saveKey, if_neg (by simp [arrived.allowed]), arrived.idle.dropKey]
    rfl
  have scanned : scanPlain false (r.indent + 1).toNat ⟨r.cursor.mark, _⟩ = _ :=
    scanPlain_key word.plainWord gap (word.apart r.cursor.mark (':' :: d :: rest))
  rw [← cursor] at scanned
  refine ⟨r.indent == r.cursor.mark.column, ?_⟩
  rw [token_key word cursor arrived.idle.outside, Scanner.plain, saved]
  change (do
    let scalar ← scanPlain false (r.indent + 1).toNat r.cursor
    return _) = _
  rw [scanned]
  simp [bind, Except.bind, pure, Except.pure]
  rfl

theorem reach_key (keys : s.keys = [some key]) (fresh : s.isStale key = false)
    (within : s.Within blocks) (inside : ∀ j ∈ blocks.head?, j ≤ s.cursor.mark.column)
    (ahead : TokenAhead s.cursor.rest) : s.reach = .ok s := by
  have here : s.cursor = ⟨s.cursor.mark, blanks 0 ++ s.cursor.rest⟩ := rfl
  have passed := skipGap_blanks here ahead s.cursor.rest.length
  have same : { s with cursor := ⟨s.cursor.mark.forward 0, s.cursor.rest⟩ } = s := rfl
  have closed : s.closeBlocks s.cursor.mark.column = s := by
    rw [closeBlocks, if_pos (by simp [within.indent_le inside])]
  rw [reach, passed, same, dropStale_fresh keys fresh]
  exact congrArg Except.ok closed

theorem value_key {front back : List Token.Kind} (keys : s.keys = [some key])
    (index : key.index = front.length) (split : s.kinds = front ++ back)
    (within : s.Within blocks) (inside : ∀ j ∈ blocks.head?, j ≤ key.mark.column)
    (cursor : s.cursor = ⟨mark, ':' :: d :: rest⟩) (gap : ¬Solid d) :
    ∃ t, s.token = .ok t ∧ t.Arrived false (mark.column + 1) (d :: rest)
      (opened key.mark.column blocks).1
      (front ++ (opened key.mark.column blocks).2 ++ .key :: back ++ [.value]) := by
  have outside : s.inFlow = false := by simp [inFlow, keys]
  have saved : s.key? = some key := by simp [key?, keys]
  obtain ⟨indent, indents, tokens, opens, around, kinds⟩ :=
    openBlock_eq (s := s.insert front.length .key key.mark) within outside inside
      (kinds_insert split key.mark) key.mark
  let u : Scanner := { s with indent, indents, tokens, keyAllowed := false, keys := [none] }
  have known : u.kinds = front ++ (opened key.mark.column blocks).2 ++ .key :: back := kinds
  refine ⟨u.emit ⟨.value, mark, mark.forward 1⟩ ⟨mark.forward 1, d :: rest⟩ false [none], ?_,
    ⟨.of_none rfl, rfl, rfl, rfl, around, ?_⟩⟩
  · rw [token_colon cursor gap, value, saved]
    dsimp only
    rw [index, opens]
    have emptied : s.keys.tail = [] := by simp [keys]
    simp [withKey, insert, emptied, pure, Except.pure]
    exact take_eq (s := u) cursor
  · rw [kinds_emit, known]

/-- A key and its colon. What has been read as a scalar turns out to be a key. -/
theorem passes_key (word : KeyWord name) {content : List Char} (gap : ¬SolidAhead content)
    (inside : ∀ j ∈ blocks.head?, j ≤ column) :
    Passes (Next true column (fieldText name content) blocks kinds)
      (Arrived false (column + name.toList.length + 1) content (opened column blocks).1
        (kinds ++ (opened column blocks).2 ++ [.key, .scalar name .plain, .value])) := by
  obtain ⟨d, rest, rfl⟩ : ∃ d rest, content = d :: rest :=
    List.exists_cons_of_ne_nil fun empty => gap (empty ▸ solidAhead_nil)
  rw [solidAhead_cons] at gap
  intro s next
  obtain ⟨r, reached, short, arrived⟩ := next.arrive inside
  obtain ⟨required, scanned⟩ := scan_key word gap arrived
  -- The scalar is remembered as one that may be a key, until the colon is met.
  let key : PossibleKey := ⟨required, r.tokens.size, r.cursor.mark⟩
  let stop := r.cursor.mark.forward name.toList.length
  let t := r.emit ⟨.scalar name .plain, r.cursor.mark, stop⟩ ⟨stop, ':' :: d :: rest⟩ false
    [some key]
  have place : t.cursor.mark.column = column + name.toList.length :=
    congrArg (· + name.toList.length) arrived.column
  have scalar : t.kinds = kinds ++ [.scalar name .plain] := by rw [kinds_emit, arrived.kinds]
  have fresh : t.isStale key = false := by
    have short := word.short
    simp [isStale, t, emit, stop, key, Mark.forward]
    omega
  have first : Step s t := by
    have filled := List.length_pos_iff.mpr word.filled
    refine .of_token reached scanned (dropStale_fresh rfl fresh) scalar (by simp) ?_
    simp [fieldText] at short
    simp [t, emit]
    omega
  have colon : TokenAhead (':' :: d :: rest) := tokenAhead_cons.mpr (by decide)
  have reach : t.reach = .ok t :=
    reach_key rfl fresh arrived.within (fun j first => (inside j first).trans (by omega)) colon
  have index : key.index = kinds.length := by
    rw [← arrived.kinds]
    simp [Scanner.kinds, key]
  have here : key.mark.column = column := arrived.column
  obtain ⟨u, taken, behind⟩ := value_key rfl index scalar arrived.within
    (fun j first => here ▸ inside j first) (rfl : t.cursor = ⟨stop, _⟩) gap
  obtain ⟨keys, dropped, stillIdle⟩ := behind.idle.dropStale
  have second : Step t { u with keys } := by
    refine .of_token reach taken dropped behind.kinds (by simp) ?_
    change u.cursor.rest.length < _
    rw [behind.rest]
    exact Nat.lt_succ_self _
  rw [here] at behind
  refine ⟨{ u with keys }, .head first (.single second), stillIdle, behind.allowed, ?_, behind.rest,
    behind.within, ?_⟩
  · exact behind.column.trans (congrArg (· + 1) place)
  · exact behind.kinds.trans (by simp)

end Keys

section Lists

variable {α : Type} {lines : α → List Char} {itemKinds : α → List Token.Kind}

/-- What is read of an item that stands behind a dash. -/
def ReadsItem (column : Nat) (blocks : List Nat) (lines : α → List Char)
    (itemKinds : α → List Token.Kind) : Prop :=
  ∀ item count rest kinds, count ≤ column → TokenAhead rest →
    Passes
      (Arrived true (column + 1) (' ' :: (lines item ++ (blanks count ++ rest)))
        (column :: blocks) kinds)
      (Next true count rest (column :: blocks) (kinds ++ itemKinds item))

theorem tokenAhead_dash : TokenAhead ('-' :: rest) := tokenAhead_cons.mpr (by decide)

theorem passes_items (reads : ReadsItem column blocks lines itemKinds) (less : count ≤ column)
    (ahead : TokenAhead rest) (item : α) (items : List α) :
    Passes
      (Next true column ('-' :: ' ' :: (lines item ++
        (items.flatMap (fun item => blanks column ++ '-' :: ' ' :: lines item) ++
          (blanks count ++ rest)))) (column :: blocks) kinds)
      (Next true count rest (column :: blocks)
        (kinds ++ (item :: items).flatMap fun item => .blockEntry :: itemKinds item)) := by
  induction items generalizing item kinds with
  | nil =>
    have passed := passes_dash.trans (reads item count rest (kinds ++ [.blockEntry]) less ahead)
    simpa using passed
  | cons next items ih =>
    have passed := (passes_dash.trans (reads item column _ (kinds ++ [.blockEntry]) (Nat.le_refl _)
      tokenAhead_dash)).trans (ih next)
    simpa using passed

theorem passes_list (reads : ReadsItem i blocks lines itemKinds) (inside : i < column)
    (less : count ≤ i) (ahead : TokenAhead rest) (items : List α) :
    Passes
      (Arrived false column (listLines i lines items ++ (blanks count ++ rest)) (i :: blocks) kinds)
      (Next true count rest (i :: blocks) (kinds ++ listKinds itemKinds items)) := by
  cases items with
  | nil =>
    have bracket : TokenAhead ('[' :: ']' :: '\n' :: (blanks count ++ rest)) :=
      tokenAhead_cons.mpr (by decide)
    intro s arrived
    exact passes_brackets (inside.le.trans (Nat.le_succ column)) ahead s (arrived.blank bracket)
  | cons item items =>
    intro s arrived
    have line : s.Arrived false column ('\n' :: (blanks i ++ '-' :: ' ' :: (lines item ++
        (items.flatMap (fun item => blanks i ++ '-' :: ' ' :: lines item) ++
          (blanks count ++ rest))))) (i :: blocks) kinds := by
      simpa [listLines] using arrived
    exact passes_items reads less ahead item items s (line.line tokenAhead_dash)

end Lists

section Fields

variable {name : String}

theorem tokenAhead_key (word : KeyWord name) (content : List Char) :
    TokenAhead (fieldText name content ++ rest) := by
  obtain ⟨c, text, shape⟩ := List.exists_cons_of_ne_nil word.filled
  have first : c ∈ name.toList := shape ▸ List.mem_cons_self
  rw [fieldText, shape]
  exact tokenAhead_cons.mpr ⟨word.solid c first, word.other first (by decide)⟩

theorem tokenAhead_text (indent : Nat) (s : String) (rest : List Char) :
    TokenAhead (scalarLine indent s ++ rest) := by
  rw [scalarLine]
  cases written : Writing.ofText s with
  | plain =>
    have plainly := Plainly.of_allowsPlain (Writing.ofText_plain written).2
    obtain ⟨c, text, shape⟩ := List.exists_cons_of_ne_nil (Writing.ne_empty_of_plain written)
    rw [shape] at plainly ⊢
    have noSpace : c ≠ ' ' := fun same => plainly.first (congrArg some same)
    refine tokenAhead_cons.mpr ⟨plainly.solid List.mem_cons_self noSpace, ?_⟩
    rintro rfl
    have calm := plainly.calm [] _ rfl
    simp [Writing.indicates] at calm
  | single | double | literal => exact tokenAhead_cons.mpr (by decide)

theorem tokenAhead_flag (b : Bool) (rest : List Char) : TokenAhead (flagLine b ++ rest) := by
  cases b <;> exact tokenAhead_cons.mpr (by decide)

theorem readsItem_text (column : Nat) (blocks : List Nat) :
    ReadsItem column blocks (scalarLine (column + 2)) fun s => [textKind s] := by
  intro s count rest kinds less ahead t arrived
  have inside : column < column + 1 + 1 := by omega
  exact passes_text s inside less ahead t (arrived.blank (tokenAhead_text _ _ _))

variable {more : List Nat} (word : KeyWord name) (inside : ∀ j ∈ blocks.head?, j ≤ column)
  (around : (opened column blocks).1 = column :: more) (less : count ≤ column)
  (ahead : TokenAhead rest)

include word inside around

theorem passes_field {content tail : List Char} {contentKinds : List Token.Kind}
    (gap : ¬SolidAhead content)
    (reads : ∀ kinds, Passes
      (Arrived false (column + name.toList.length + 1) (content ++ tail) (column :: more) kinds)
      (Next true count rest (column :: more) (kinds ++ contentKinds))) :
    Passes (Next true column (fieldText name content ++ tail) blocks kinds)
      (Next true count rest (column :: more)
        (kinds ++ (opened column blocks).2 ++ fieldKinds name contentKinds)) := by
  have further : ¬SolidAhead (content ++ tail) := by
    cases content with
    | nil => exact absurd solidAhead_nil gap
    | cons d content => exact gap
  have shape : fieldText name content ++ tail = fieldText name (content ++ tail) := by
    simp [fieldText]
  have key : Passes (Next true column _ blocks kinds) _ := passes_key word further inside
  rw [around] at key
  have passed := key.trans (reads _)
  rw [shape]
  simpa [fieldKinds] using passed

include less ahead

theorem passes_textField (s : String) :
    Passes
      (Next true column (fieldText name (' ' :: scalarLine (column + 2) s) ++
        (blanks count ++ rest)) blocks kinds)
      (Next true count rest (column :: more)
        (kinds ++ (opened column blocks).2 ++ fieldKinds name [textKind s])) := by
  refine passes_field word inside around (by simp [SolidAhead]; decide) fun kinds t arrived => ?_
  exact passes_text s (by omega) less ahead t (arrived.blank (tokenAhead_text _ _ _))

theorem passes_flagField (b : Bool) :
    Passes
      (Next true column (fieldText name (' ' :: flagLine b) ++ (blanks count ++ rest)) blocks kinds)
      (Next true count rest (column :: more)
        (kinds ++ (opened column blocks).2 ++ fieldKinds name [flagKind b])) := by
  refine passes_field word inside around (by simp [SolidAhead]; decide) fun kinds t arrived => ?_
  exact passes_flag b (by omega) less ahead t (arrived.blank (tokenAhead_flag _ _))

theorem passes_listField {α : Type} {lines : α → List Char} {itemKinds : α → List Token.Kind}
    (reads : ReadsItem column more lines itemKinds) (items : List α) :
    Passes
      (Next true column (fieldText name (listLines column lines items) ++ (blanks count ++ rest))
        blocks kinds)
      (Next true count rest (column :: more)
        (kinds ++ (opened column blocks).2 ++ fieldKinds name (listKinds itemKinds items))) := by
  refine passes_field word inside around ?_ fun kinds =>
    passes_list reads (by omega) less ahead items
  cases items <;> simp [listLines, SolidAhead] <;> decide

end Fields

end Collections

section Ends

variable {s : Scanner} {blocks : List Nat} {kinds : List Token.Kind}

theorem Next.finish (next : s.Next true 0 [] [0] kinds) : ∃ last, s.step = .ok last ∧
    last.kinds = kinds ++ [.blockEnd, .streamEnd] := by
  obtain ⟨r, reached, _, arrived⟩ := next.arrive (by simp)
  have none : r.cursor.at? 0 = none := by simp [Cursor.at?, arrived.rest]
  have start : r.cursor.mark.column = 0 := arrived.column
  have within : Within ([0] ++ []) r := arrived.within
  obtain ⟨_, closed⟩ : Within [] (r.closeBlocks (-1)) ∧ _ :=
    closeBlocks_within arrived.idle.outside within (by simp) (by simp) (by omega)
  have idle : (r.closeBlocks (-1)).Idle := by
    obtain ⟨key, keys, optional⟩ := arrived.idle
    exact ⟨key, keys_closeBlocks.trans keys, optional⟩
  let t : Scanner := { r.closeBlocks (-1) with keys := [Option.none], keyAllowed := false }
  have token : r.token = .ok (t.push .streamEnd r.cursor.mark r.cursor.mark) := by
    have left : r.leaveDocument = .ok t := by
      rw [leaveDocument, idle.dropKey]
      rfl
    rw [Scanner.token, none]
    dsimp only
    rw [endStream, if_pos start]
    change (do
      let s ← r.leaveDocument
      return s.push .streamEnd r.cursor.mark r.cursor.mark) = _
    rw [left]
    rfl
  refine ⟨t.push .streamEnd r.cursor.mark r.cursor.mark, ?_, ?_⟩
  · rw [step_eq, reached]
    change (do let t ← r.token; t.dropStale) = _
    rw [token]
    rfl
  · rw [kinds_push]
    change (r.closeBlocks (-1)).kinds ++ _ = _
    rw [closed, arrived.kinds]
    simp [ends]

end Ends

end Scanner

section Stream

open Scanner

/-- The tokens of a text whose first block mapping goes on up to the end. -/
theorem TokenStream.ofText_passes {text : List Char} {kinds : List Token.Kind}
    (allowed : ∀ c ∈ text, isAllowed c = true) (ahead : TokenAhead text)
    (noMark : text.head? ≠ some '\ufeff')
    (passes : Passes (Next true 0 text [] []) (Next true 0 [] [0] kinds)) :
    ∃ tokens : List Token, TokenStream.ofText text = { tokens } ∧
      tokens.map (·.kind) = kinds ++ [.blockEnd, .streamEnd] := by
  let s : Scanner := { cursor := { rest := text } }
  have first : s.Next true 0 text [] [] := by
    have arrived : s.Arrived true 0 text [] [] := ⟨.of_none rfl, rfl, rfl, rfl, rfl, rfl⟩
    exact arrived.next ahead
  obtain ⟨t, steps, next⟩ := passes s first
  obtain ⟨last, step, kinds⟩ := next.finish
  refine ⟨last.tokens.toList, ?_, kinds⟩
  have done : last.isDone = true := by simp [isDone_eq, kinds]
  have plain : Cursor.sees 0 '\ufeff' { rest := text } = false := by
    cases text with
    | nil => rfl
    | cons c text =>
      have other : c ≠ '\ufeff' := fun same => noMark (congrArg some same)
      simp [Cursor.sees, Cursor.at?, other]
  have all : TokenStream.forbidden? text = none := if_pos (List.all_eq_true.mpr allowed)
  rw [TokenStream.ofText, all]
  dsimp only
  rw [plain, if_neg Bool.false_ne_true]
  exact ofScanner_run steps step done (Nat.lt_add_of_pos_right Nat.two_pos)

end Stream

end SchemaCheck.Yaml
