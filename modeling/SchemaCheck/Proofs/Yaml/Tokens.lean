import Mathlib.Logic.Relation
import SchemaCheck.Proofs.Yaml.Block
import SchemaCheck.Proofs.Yaml.Plain
import SchemaCheck.Proofs.Yaml.Quoted
import SchemaCheck.Yaml.Token.Stream

/-!
From token to token. A scanner passes blanks and line breaks up to the next token, and the block
collections that lie deeper end there (`Scanner.Next`); what is known of it in front of a token is
`Scanner.Arrived`. Steps that lead from one token to the next make up a run (`Scanner.Passes`), and
a run up to the last token reads all of them (`Scanner.ofScanner_run`).
-/

namespace SchemaCheck.Yaml

section Printed

def textKind (s : String) : Token.Kind :=
  .scalar s <| match Writing.ofText s with
    | .plain => .plain
    | .literal => .literal
    | .single | .double => .other

def flagKind (b : Bool) : Token.Kind := .scalar (if b then "true" else "false") .plain

def fieldKinds (name : String) (content : List Token.Kind) : List Token.Kind :=
  .key :: .scalar name .plain :: .value :: content

/-- The tokens of a list behind a key. -/
def listKinds {α : Type} (itemKinds : α → List Token.Kind) (items : List α) : List Token.Kind :=
  if items.isEmpty then [.flowSequenceStart, .flowSequenceEnd]
  else items.flatMap fun item => .blockEntry :: itemKinds item

end Printed

namespace Scanner

def kinds (s : Scanner) : List Token.Kind := s.tokens.toList.map (·.kind)

/-- The columns of the block collections around, innermost first. -/
def Within (blocks : List Nat) (s : Scanner) : Prop :=
  s.indent :: s.indents = blocks.map Nat.cast ++ [-1]

/-- Outside of flow collections; if a key may have started, it need not be one. -/
def Idle (s : Scanner) : Prop := ∃ key, s.keys = [key] ∧ ∀ k ∈ key, k.required = false

section Kinds

variable {s : Scanner} {kind : Token.Kind}

@[simp]
theorem kinds_push (start stop : Mark) : (s.push kind start stop).kinds = s.kinds ++ [kind] := by
  simp [kinds, push]

theorem kinds_insert {front back : List Token.Kind} (split : s.kinds = front ++ back)
    (mark : Mark) :
    (s.insert front.length kind mark).kinds = front ++ kind :: back := by
  obtain ⟨before, after, tokens, rfl, rfl⟩ := List.map_eq_append_iff.mp split
  have inserted : (before ++ after).insertIdx before.length ⟨kind, mark, mark⟩ =
      before ++ ⟨kind, mark, mark⟩ :: after := by
    clear split tokens
    induction before with
    | nil => rfl
    | cons token before ih => simp [ih]
  have array : s.tokens = (before ++ after).toArray := by rw [← tokens, Array.toArray_toList]
  simp [kinds, insert, array, inserted]

end Kinds

section Keys

variable {s : Scanner}

theorem optional_none : ∀ k ∈ (none : Option PossibleKey), k.required = false := nofun

theorem Idle.of_none (keys : s.keys = [none]) : s.Idle := ⟨none, keys, optional_none⟩

theorem Idle.outside (idle : s.Idle) : s.inFlow = false := by
  obtain ⟨key, keys, _⟩ := idle
  simp [inFlow, keys]

theorem giveUp_optional {key : Option PossibleKey} (optional : ∀ k ∈ key, k.required = false)
    (goes : PossibleKey → Bool) : ∃ left, s.giveUp goes key = .ok left ∧
      (left = key ∨ left = none) := by
  cases key with
  | none => exact ⟨none, rfl, .inr rfl⟩
  | some key =>
    have free : key.required = false := optional key rfl
    rw [giveUp]
    by_cases stays : goes key = true
    · exact ⟨none, by simp [stays, free], .inr rfl⟩
    · exact ⟨some key, by simp [stays], .inl rfl⟩

theorem Idle.dropStale (idle : s.Idle) : ∃ keys, s.dropStale = .ok { s with keys } ∧
    ({ s with keys } : Scanner).Idle := by
  obtain ⟨key, keys, optional⟩ := idle
  obtain ⟨left, given, which⟩ := giveUp_optional (s := s) optional s.isStale
  refine ⟨[left], ?_, left, rfl, ?_⟩
  · rw [Scanner.dropStale, keys]
    simp [given, bind, Except.bind, pure, Except.pure]
  · rcases which with rfl | rfl
    · exact optional
    · exact optional_none

theorem Idle.dropKey (idle : s.Idle) : s.dropKey = .ok { s with keys := [none] } := by
  obtain ⟨key, keys, optional⟩ := idle
  have given : s.giveUp (fun _ => true) key = .ok none := by
    cases key with
    | none => rfl
    | some key => simp [giveUp, optional key rfl]
  rw [Scanner.dropKey, key?, keys]
  change (do return s.withKey (← s.giveUp (fun _ => true) key)) = _
  rw [given]
  simp [bind, Except.bind, pure, Except.pure, withKey, keys]

end Keys

section Gaps

variable {s : Scanner} {mark : Mark} {rest : List Char} {count fuel : Nat}

/-- A token is ahead, or the end of the text. -/
def TokenAhead (rest : List Char) : Prop := ∀ c ∈ rest.head?, Solid c ∧ c ≠ '#'

theorem tokenAhead_cons {c : Char} : TokenAhead (c :: rest) ↔ Solid c ∧ c ≠ '#' := by
  simp [TokenAhead]

theorem TokenAhead.solid (ahead : TokenAhead rest) : SolidAhead rest := fun c first =>
  (ahead c first).1

theorem skipWhile_blanks {passes : Char → Bool} (blank : passes ' ' = true)
    (solid : ∀ c, Solid c → passes c = false) (ahead : SolidAhead rest) :
    Cursor.skipWhile passes ⟨mark, blanks count ++ rest⟩ = ⟨mark.forward count, rest⟩ := by
  have all : ∀ c ∈ blanks count, passes c = true := fun c member =>
    List.eq_of_mem_replicate member ▸ blank
  have taken : Cursor.span passes ⟨mark, blanks count ++ rest⟩ = blanks count :=
    Text.takeWhile_run all fun c first => solid c (ahead c first)
  rw [Cursor.skipWhile, taken, blanks, List.length_replicate]
  exact Cursor.skip_blanks

theorem skipComment_ahead (ahead : TokenAhead rest) :
    Cursor.skipComment ⟨mark, rest⟩ = ⟨mark, rest⟩ := by
  cases rest with
  | nil => rfl
  | cons c rest => simp [Cursor.skipComment, Cursor.sees, Cursor.at?, (ahead c rfl).2]

theorem seesBreak_ahead (ahead : SolidAhead rest) : Cursor.seesBreak ⟨mark, rest⟩ = false := by
  cases rest with
  | nil => rfl
  | cons c rest => exact (solid_iff.mp (ahead c rfl)).2

def passes (s : Scanner) (c : Char) : Bool :=
  c == ' ' || ((s.inFlow || !s.keyAllowed) && c == '\t')

theorem passes_solid {c : Char} (solid : Solid c) : s.passes c = false := by
  have noSpace : c ≠ ' ' := fun same => absurd (same ▸ solid : Solid ' ') (by decide)
  have noTab : c ≠ '\t' := fun same => absurd (same ▸ solid : Solid '\t') (by decide)
  simp [passes, noSpace, noTab]

theorem skipGap_eq (s : Scanner) (fuel : Nat) : s.skipGap (fuel + 1) =
    (let cursor := (s.cursor.skipWhile s.passes).skipComment
    if cursor.seesBreak then
      skipGap fuel { s with cursor := cursor.skipLine, keyAllowed := s.keyAllowed || !s.inFlow }
    else { s with cursor }) := rfl

theorem skipGap_blanks (cursor : s.cursor = ⟨mark, blanks count ++ rest⟩)
    (ahead : TokenAhead rest) (fuel : Nat) :
    s.skipGap (fuel + 1) = { s with cursor := ⟨mark.forward count, rest⟩ } := by
  have passed : s.cursor.skipWhile s.passes = ⟨mark.forward count, rest⟩ := by
    rw [cursor]
    exact skipWhile_blanks (by simp [passes]) (fun c => passes_solid) ahead.solid
  rw [skipGap_eq]
  dsimp only
  rw [passed, skipComment_ahead ahead, seesBreak_ahead ahead.solid]
  rfl

theorem skipGap_line (outside : s.inFlow = false) (cursor : s.cursor = ⟨mark, '\n' :: rest⟩) :
    s.skipGap (fuel + 1) =
      skipGap fuel { s with cursor := ⟨mark.nextLine, rest⟩, keyAllowed := true } := by
  have passed : s.cursor.skipWhile s.passes = ⟨mark, '\n' :: rest⟩ := by
    rw [cursor]
    simp [Cursor.skipWhile, Cursor.span, passes, Cursor.skip]
  have comment : Cursor.skipComment ⟨mark, '\n' :: rest⟩ = ⟨mark, '\n' :: rest⟩ := rfl
  rw [skipGap_eq]
  dsimp only
  rw [passed, comment, outside, Bool.not_false, Bool.or_true]
  rfl

end Gaps

section Blocks

variable {s : Scanner} {column : Int} {closed left : List Nat}

theorem Within.indent_eq {i : Nat} (within : s.Within (i :: left)) : s.indent = i :=
  (List.cons.inj within).1

theorem Within.indent_le {column : Nat} (within : s.Within left)
    (inside : ∀ j ∈ left.head?, j ≤ column) : s.indent ≤ column := by
  cases left with
  | nil =>
    have least : s.indent = -1 := (List.cons.inj within).1
    omega
  | cons j left =>
    rw [within.indent_eq]
    exact Int.ofNat_le.mpr (inside j rfl)

def ends (closed : List Nat) : List Token.Kind := closed.map fun _ => .blockEnd

theorem kinds_ends (closed : List Int) (mark : Mark) (tokens : Array Token) :
    (closed.foldl (fun tokens _ => tokens.push ⟨.blockEnd, mark, mark⟩) tokens).toList.map
      (·.kind) = tokens.toList.map (·.kind) ++ closed.map fun _ => .blockEnd := by
  induction closed generalizing tokens with
  | nil => exact (List.append_nil _).symm
  | cons j closed ih =>
    rw [List.foldl_cons, ih]
    simp

@[simp]
theorem cursor_closeBlocks : (s.closeBlocks column).cursor = s.cursor := by
  rw [closeBlocks]
  split <;> rfl

@[simp]
theorem keys_closeBlocks : (s.closeBlocks column).keys = s.keys := by
  rw [closeBlocks]
  split <;> rfl

@[simp]
theorem keyAllowed_closeBlocks : (s.closeBlocks column).keyAllowed = s.keyAllowed := by
  rw [closeBlocks]
  split <;> rfl

theorem closeBlocks_within (outside : s.inFlow = false) (within : Within (closed ++ left) s)
    (deeper : ∀ j ∈ closed, column < (j : Int)) (stays : ∀ j ∈ left.head?, (j : Int) ≤ column)
    (least : -1 ≤ column) : Within left (s.closeBlocks column) ∧
      (s.closeBlocks column).kinds = s.kinds ++ ends closed := by
  obtain ⟨i, more, rest⟩ : ∃ i more, left.map Nat.cast ++ [-1] = i :: more :=
    List.exists_cons_of_ne_nil (by simp)
  have stop : i ≤ column := by
    cases left with
    | nil => exact (List.cons.inj rest).1 ▸ least
    | cons j left => exact (List.cons.inj rest).1 ▸ stays j rfl
  have shape : s.indent :: s.indents = closed.map Nat.cast ++ i :: more := by
    rw [← rest, ← List.append_assoc, ← List.map_append]
    exact within
  cases closed with
  | nil =>
    have indent : s.indent = i := (List.cons.inj shape).1
    rw [closeBlocks, outside, Bool.false_or, if_pos (decide_eq_true (indent ▸ stop))]
    exact ⟨within, (List.append_nil _).symm⟩
  | cons j closed =>
    have first : column < s.indent := (List.cons.inj shape).1 ▸ deeper j List.mem_cons_self
    have all : ∀ k ∈ (j :: closed).map (Nat.cast : Nat → Int), decide (column < k) = true := by
      simpa using deeper
    have taken : (i :: more).takeWhile (column < ·) = [] := by simpa using stop
    have kept : (i :: more).dropWhile (column < ·) = i :: more := by simpa using stop
    rw [closeBlocks, outside, Bool.false_or, if_neg (by simpa using first)]
    dsimp only
    rw [shape, List.takeWhile_append_of_pos all, List.dropWhile_append_of_pos all, taken, kept,
      List.append_nil]
    refine ⟨rest.symm, (kinds_ends ..).trans ?_⟩
    simp [ends, kinds, Function.comp_def]

end Blocks

section Reaching

variable {s r t : Scanner} {allowed : Bool} {column count i : Nat} {rest : List Char}
  {blocks : List Nat} {kinds : List Token.Kind} {mark : Mark}

def reach (s : Scanner) : Except Fault Scanner := do
  let s ← (s.skipGap (s.cursor.rest.length + 1)).dropStale
  return s.closeBlocks s.cursor.mark.column

theorem step_eq (s : Scanner) : s.step = (do
    let r ← s.reach
    let t ← r.token
    t.dropStale) := by
  rw [step, reach]
  cases (s.skipGap (s.cursor.rest.length + 1)).dropStale <;> rfl

/-- What is known of a scanner in front of a token. -/
structure Arrived (allowed : Bool) (column : Nat) (rest : List Char) (blocks : List Nat)
    (kinds : List Token.Kind) (r : Scanner) : Prop where
  idle : r.Idle
  allowed : r.keyAllowed = allowed
  column : r.cursor.mark.column = column
  rest : r.cursor.rest = rest
  within : r.Within blocks
  kinds : r.kinds = kinds

/-- The next token stands at a column. In front of it, the block collections that lie deeper end. -/
def Next (allowed : Bool) (column : Nat) (rest : List Char) (blocks : List Nat)
    (kinds : List Token.Kind) (s : Scanner) : Prop :=
  ∃ r closed left, s.reach = .ok r ∧ rest.length ≤ s.cursor.rest.length ∧
    blocks = closed ++ left ∧ (∀ j ∈ closed, column < j) ∧ (∀ j ∈ left.head?, j ≤ column) ∧
    r.Arrived allowed column rest left (kinds ++ ends closed)

theorem Next.of_gap (idle : s.Idle) (within : s.Within blocks)
    (gap : s.skipGap (s.cursor.rest.length + 1) =
      { s with cursor := ⟨mark, rest⟩, keyAllowed := allowed })
    (short : rest.length ≤ s.cursor.rest.length) :
    s.Next allowed mark.column rest blocks s.kinds := by
  obtain ⟨keys, dropped, stillIdle⟩ :=
    Idle.dropStale (s := { s with cursor := ⟨mark, rest⟩, keyAllowed := allowed }) idle
  obtain ⟨closed, left, rfl, deeper, stays⟩ :
      ∃ closed left, blocks = closed ++ left ∧ (∀ j ∈ closed, mark.column < j) ∧
        ∀ j ∈ left.head?, j ≤ mark.column := by
    refine ⟨_, _, (List.takeWhile_append_dropWhile (p := (mark.column < ·))).symm,
      fun j member => by simpa using List.mem_takeWhile_imp member, fun j first => ?_⟩
    have stops := List.head?_dropWhile_not (mark.column < ·) blocks
    rw [first] at stops
    simpa using stops
  let passed : Scanner := { s with cursor := ⟨mark, rest⟩, keyAllowed := allowed, keys }
  obtain ⟨inside, closes⟩ : Within left (passed.closeBlocks mark.column) ∧ _ :=
    closeBlocks_within stillIdle.outside within (by simpa using deeper) (by simpa using stays)
      (by omega)
  refine ⟨passed.closeBlocks mark.column, closed, left, ?_, short, rfl, deeper, stays, ?_⟩
  · rw [reach, gap, dropped]
    rfl
  · refine ⟨?_, keyAllowed_closeBlocks, ?_, ?_, inside, closes⟩
    · obtain ⟨key, same, optional⟩ := stillIdle
      exact ⟨key, keys_closeBlocks.trans same, optional⟩
    · rw [cursor_closeBlocks]
    · rw [cursor_closeBlocks]

theorem Next.here (idle : s.Idle) (within : s.Within blocks)
    (cursor : s.cursor = ⟨mark, blanks count ++ rest⟩) (ahead : TokenAhead rest) :
    s.Next s.keyAllowed (mark.column + count) rest blocks s.kinds :=
  .of_gap idle within (skipGap_blanks cursor ahead _) (by simp [cursor])

theorem Next.line (idle : s.Idle) (within : s.Within blocks)
    (cursor : s.cursor = ⟨mark, '\n' :: (blanks count ++ rest)⟩) (ahead : TokenAhead rest) :
    s.Next true count rest blocks s.kinds := by
  have length : s.cursor.rest.length = count + rest.length + 1 := by simp [cursor, blanks]
  have gap : s.skipGap (s.cursor.rest.length + 1) =
      { s with cursor := ⟨mark.nextLine.forward count, rest⟩, keyAllowed := true } := by
    rw [skipGap_line idle.outside cursor, length]
    exact skipGap_blanks rfl ahead _
  have next := Next.of_gap idle within gap (by omega)
  rwa [Mark.column_forward, Mark.column_nextLine, Nat.zero_add] at next

theorem Arrived.here (arrived : s.Arrived allowed column (blanks count ++ rest) blocks kinds)
    (ahead : TokenAhead rest) : s.Next allowed (column + count) rest blocks kinds := by
  rw [← arrived.allowed, ← arrived.column, ← arrived.kinds]
  exact .here arrived.idle arrived.within (congrArg (Cursor.mk s.cursor.mark) arrived.rest) ahead

theorem Arrived.next (arrived : s.Arrived allowed column rest blocks kinds)
    (ahead : TokenAhead rest) : s.Next allowed column rest blocks kinds := by
  have here : s.Arrived allowed column (blanks 0 ++ rest) blocks kinds := arrived
  exact here.here ahead

theorem Arrived.blank (arrived : s.Arrived allowed column (' ' :: rest) blocks kinds)
    (ahead : TokenAhead rest) : s.Next allowed (column + 1) rest blocks kinds := by
  have here : s.Arrived allowed column (blanks 1 ++ rest) blocks kinds := arrived
  exact here.here ahead

theorem Arrived.line
    (arrived : s.Arrived allowed column ('\n' :: (blanks count ++ rest)) blocks kinds)
    (ahead : TokenAhead rest) : s.Next true count rest blocks kinds := by
  rw [← arrived.kinds]
  exact .line arrived.idle arrived.within (congrArg (Cursor.mk s.cursor.mark) arrived.rest) ahead

theorem Next.close (next : s.Next allowed column rest (i :: blocks) kinds) (deeper : column < i) :
    s.Next allowed column rest blocks (kinds ++ [.blockEnd]) := by
  obtain ⟨r, closed, left, reach, short, split, all, stays, arrived⟩ := next
  cases closed with
  | nil =>
    obtain rfl : i :: blocks = left := split
    exact absurd (stays i rfl) (Nat.not_le.mpr deeper)
  | cons j closed =>
    obtain ⟨rfl, same⟩ := List.cons.inj split
    refine ⟨r, closed, left, reach, short, same, fun k member =>
      all k (List.mem_cons_of_mem i member), stays, ?_⟩
    rwa [List.append_assoc]

theorem Next.arrive (next : s.Next allowed column rest blocks kinds)
    (inside : ∀ j ∈ blocks.head?, j ≤ column) : ∃ r, s.reach = .ok r ∧
      rest.length ≤ s.cursor.rest.length ∧ r.Arrived allowed column rest blocks kinds := by
  obtain ⟨r, closed, left, reach, short, split, all, stays, arrived⟩ := next
  cases closed with
  | nil =>
    obtain rfl : blocks = left := split
    exact ⟨r, reach, short, by simpa [ends] using arrived⟩
  | cons j closed =>
    subst split
    exact absurd (all j List.mem_cons_self) (Nat.not_lt.mpr (inside j rfl))

end Reaching

section Steps

open Relation (ReflTransGen)

variable {s r t : Scanner} {kind : Token.Kind}

/-- One token that does not end the text. -/
def Step (s t : Scanner) : Prop :=
  s.step = .ok t ∧ t.isDone = false ∧ t.cursor.rest.length < s.cursor.rest.length

/-- Some tokens lead from scanners of the one sort to scanners of the other. -/
def Passes (P Q : Scanner → Prop) : Prop := ∀ s, P s → ∃ t, ReflTransGen Step s t ∧ Q t

variable {P Q R : Scanner → Prop}

theorem Passes.refl (implies : ∀ s, P s → Q s) : Passes P Q := fun s holds =>
  ⟨s, .refl, implies s holds⟩

theorem Passes.trans (first : Passes P Q) (later : Passes Q R) : Passes P R := by
  intro s holds
  obtain ⟨t, steps, between⟩ := first s holds
  obtain ⟨u, more, ends⟩ := later t between
  exact ⟨u, steps.trans more, ends⟩

theorem isDone_eq : s.isDone = s.kinds.getLast?.any (· == .streamEnd) := by
  rw [isDone, kinds, List.getLast?_map, Array.getLast?_toList]
  cases s.tokens.back? <;> rfl

theorem Step.of_token {u : Scanner} (reached : s.reach = .ok r) (taken : r.token = .ok t)
    (dropped : t.dropStale = .ok u) {kinds : List Token.Kind} (last : u.kinds = kinds ++ [kind])
    (other : kind ≠ .streamEnd) (shorter : u.cursor.rest.length < s.cursor.rest.length) :
    Step s u := by
  refine ⟨?_, ?_, shorter⟩
  · rw [step_eq, reached]
    change (do let t ← r.token; t.dropStale) = _
    rw [taken]
    exact dropped
  · rw [isDone_eq, last]
    simpa using other

theorem ofScanner_run {last : Scanner} (steps : ReflTransGen Step s t) (ends : t.step = .ok last)
    (done : last.isDone = true) {fuel : Nat} (enough : s.cursor.rest.length < fuel) :
    TokenStream.ofScanner fuel s = { tokens := last.tokens.toList } := by
  induction steps using ReflTransGen.head_induction_on generalizing fuel with
  | refl =>
    obtain ⟨fuel, rfl⟩ : ∃ n, fuel = n + 1 := ⟨fuel - 1, by omega⟩
    rw [TokenStream.ofScanner, ends]
    exact if_pos done
  | head step _ ih =>
    obtain ⟨taken, more, shorter⟩ := step
    obtain ⟨fuel, rfl⟩ : ∃ n, fuel = n + 1 := ⟨fuel - 1, by omega⟩
    rw [TokenStream.ofScanner, taken]
    exact (if_neg (by simp [more])).trans (ih (by omega))

end Steps

end Scanner

end SchemaCheck.Yaml
