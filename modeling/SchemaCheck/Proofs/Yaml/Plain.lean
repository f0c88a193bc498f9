import SchemaCheck.Proofs.Text.Run
import SchemaCheck.Proofs.Yaml.Cursor

/-!
Reading plain scalars. A text that may be written plainly is made of words (`PlainWords.of_plain`),
and these are read up to the end of their line (`scanPlain_line`).
-/

namespace SchemaCheck.Yaml

section Words

def EndsWord (rest : List Char) : Prop :=
  ∀ start fuel mark, scanPlainWord false start fuel ⟨mark, rest⟩ = .ok ([], ⟨mark, rest⟩)

structure PlainWord (word : List Char) : Prop where
  filled : word ≠ []
  solid : ∀ c ∈ word, Solid c
  noHash : word.head? ≠ some '#'
  noColon : word.getLast? ≠ some ':'

variable {c d : Char} {word rest : List Char} {start mark : Mark}

theorem endsWord_gap (gap : ¬Solid c) : EndsWord (c :: rest) := by
  intro start fuel mark
  cases fuel with
  | zero => rfl
  | succ fuel =>
    rw [scanPlainWord]
    exact if_pos (Bool.not_eq_false _ ▸ gap)

theorem endsWord_colon (gap : ¬Solid d) : EndsWord (':' :: d :: rest) := by
  have behind : (isBlank d || isBreak d) = true := Bool.not_eq_false _ ▸ gap
  intro start fuel mark
  have ends : endsPlain false ⟨mark, ':' :: d :: rest⟩ = true := by
    simpa [endsPlain, Cursor.sees, Cursor.at?, Cursor.endsWord, Cursor.endsOr] using behind
  cases fuel with
  | zero => rfl
  | succ fuel =>
    rw [scanPlainWord]
    simp only [Cursor.at?, List.getElem?_cons_zero]
    rw [if_neg (by decide), if_neg (by simp [isStrayColon]), if_pos ends]

theorem scanPlainWord_word (solid : ∀ c ∈ word, Solid c) (noColon : word.getLast? ≠ some ':')
    (ends : EndsWord rest) {fuel : Nat} (enough : word.length ≤ fuel) :
    scanPlainWord false start fuel ⟨mark, word ++ rest⟩ =
      .ok (word, ⟨mark.forward word.length, rest⟩) := by
  induction word generalizing fuel mark with
  | nil => exact ends start fuel mark
  | cons c word ih =>
    obtain ⟨fuel, rfl⟩ : ∃ n, fuel = n + 1 := ⟨fuel - 1, by simp at enough; omega⟩
    have here : Solid c := solid c List.mem_cons_self
    have more : endsPlain false ⟨mark, c :: (word ++ rest)⟩ = false := by
      cases word with
      | nil =>
        have other : c ≠ ':' := fun same => noColon (congrArg some same)
        simp [endsPlain, Cursor.sees, Cursor.at?, other]
      | cons d word =>
        have next : Solid d := solid d (List.mem_cons_of_mem _ List.mem_cons_self)
        simp [endsPlain, Cursor.sees, Cursor.at?, Cursor.endsWord, Cursor.endsOr, solid_iff.mp next]
    have later : word.getLast? ≠ some ':' := by
      cases word with
      | nil => simp
      | cons d word => rwa [List.getLast?_cons_cons] at noColon
    have read : scanPlainWord false start fuel (Cursor.skip 1 ⟨mark, c :: (word ++ rest)⟩) =
        .ok (word, ⟨(mark.forward 1).forward word.length, rest⟩) :=
      ih (fun d member => solid d (List.mem_cons_of_mem c member)) later
        (Nat.le_of_succ_le_succ enough)
    rw [List.cons_append, scanPlainWord]
    simp only [Cursor.at?, List.getElem?_cons_zero]
    rw [if_neg (by rw [here]; decide), if_neg (by simp [isStrayColon]),
      if_neg (by rw [more]; decide)]
    rw [read, Mark.forward_forward, Nat.add_comm 1]
    rfl

def behindWord (indent : Nat) (start : Mark) (fuel : Nat) (read : Plain) : Except Fault Plain :=
  if !(read.cursor.seesBlank || read.cursor.seesBreak) then .ok read
  else do
    let (gap, cursor) ←
      scanGap (fun c => c.mark.column < indent) start read.cursor.rest.length {} read.cursor
    let read := { read with broken := gap.broken, cursor }
    if cursor.mark.column < indent then return read
    else scanPlainWords false indent start fuel gap read

theorem scanPlainWords_word (isWord : PlainWord word) (ends : EndsWord rest) {indent fuel : Nat}
    {gap : Gap} {plain : Plain} (cursor : plain.cursor = ⟨mark, word ++ rest⟩)
    (apart : plain.cursor.seesAnySeparator = false) :
    scanPlainWords false indent start (fuel + 1) gap plain = behindWord indent start fuel
      { text := plain.text ++ gap.text ++ word
        stop := mark.forward word.length
        broken := false
        cursor := ⟨mark.forward word.length, rest⟩ } := by
  obtain ⟨filled, solid, noHash, noColon⟩ := isWord
  have noMark : plain.cursor.sees 0 '#' = false := by
    obtain ⟨c, more, rfl⟩ := List.exists_cons_of_ne_nil filled
    have other : c ≠ '#' := fun same => noHash (congrArg some same)
    simp [cursor, Cursor.sees, Cursor.at?, other]
  have read : scanPlainWord false start plain.cursor.rest.length plain.cursor =
      .ok (word, ⟨mark.forward word.length, rest⟩) := by
    rw [cursor]
    exact scanPlainWord_word solid noColon ends (by simp)
  have some : word.isEmpty = false := List.isEmpty_eq_false_iff.mpr filled
  rw [scanPlainWords]
  dsimp only
  rw [apart, noMark, read]
  simp only [bind, Except.bind, some, behindWord, Bool.not_false, Bool.true_and, decide_eq_true_eq]
  rfl

variable {indent fuel count : Nat} {read : Plain}

theorem behindWord_colon (cursor : read.cursor = ⟨mark, ':' :: rest⟩) :
    behindWord indent start fuel read = .ok read := by
  rw [behindWord, cursor, Cursor.seesBlank_cons, Cursor.seesBreak_cons]
  exact if_pos (by decide)

/-- The scalar ends with its line if the next one is indented less. -/
theorem behindWord_line (cursor : read.cursor = ⟨mark, '\n' :: (blanks count ++ rest)⟩)
    (less : count < indent) (ahead : SolidAhead rest) :
    behindWord indent start fuel read =
      .ok { read with broken := true, cursor := ⟨mark.nextLine.forward count, rest⟩ } := by
  have gap (isBad : Cursor → Bool) :
      scanGap isBad start read.cursor.rest.length {} read.cursor =
        .ok ({ broken := true, first := ['\n'] }, ⟨mark.nextLine.forward count, rest⟩) := by
    have blanks : scanGap isBad start (blanks count ++ rest).length
        { broken := true, first := ['\n'] } ⟨mark.nextLine, blanks count ++ rest⟩ = _ :=
      scanGap_blanks count (by simp [Yaml.blanks]) ahead
    rw [cursor, List.length_cons, scanGap]
    exact blanks
  have seen : (!(read.cursor.seesBlank || read.cursor.seesBreak)) = false := by
    rw [cursor, Cursor.seesBlank_cons, Cursor.seesBreak_cons]
    decide
  have outside : (mark.nextLine.forward count).column < indent := by simpa using less
  rw [behindWord, seen, if_neg Bool.false_ne_true, gap]
  simp only [bind, Except.bind, if_pos outside]
  rfl

theorem behindWord_blanks (cursor : read.cursor = ⟨mark, blanks (count + 1) ++ rest⟩)
    (inside : indent ≤ mark.column) (ahead : SolidAhead rest) :
    behindWord indent start fuel read =
      scanPlainWords false indent start fuel { blanks := blanks (count + 1) }
        { read with broken := false, cursor := ⟨mark.forward (count + 1), rest⟩ } := by
  have gap (isBad : Cursor → Bool) :
      scanGap isBad start read.cursor.rest.length {} read.cursor =
        .ok ({ blanks := blanks (count + 1) }, ⟨mark.forward (count + 1), rest⟩) := by
    rw [cursor]
    exact scanGap_blanks (count + 1) (by simp [blanks]) ahead
  have seen : (!(read.cursor.seesBlank || read.cursor.seesBreak)) = false := by
    rw [cursor, blanks, List.replicate_succ, List.cons_append, Cursor.seesBlank_cons,
      Cursor.seesBreak_cons]
    decide
  have within : ¬(mark.forward (count + 1)).column < indent := by
    rw [Mark.column_forward]
    omega
  rw [behindWord, seen, if_neg Bool.false_ne_true, gap]
  simp only [bind, Except.bind, if_neg within]

end Words

section Scalars

/-- Words with blanks between them. -/
inductive PlainWords : List Char → Prop where
  | last {word : List Char} (isWord : PlainWord word) : PlainWords word
  | next {word rest : List Char} (count : Nat) (isWord : PlainWord word) (more : PlainWords rest) :
    PlainWords (word ++ (blanks (count + 1) ++ rest))

variable {text rest : List Char} {start mark : Mark}

theorem PlainWord.ahead (isWord : PlainWord text) : SolidAhead (text ++ rest) := by
  obtain ⟨c, more, rfl⟩ := List.exists_cons_of_ne_nil isWord.filled
  exact solidAhead_cons.mpr (isWord.solid c List.mem_cons_self)

theorem PlainWords.ahead (words : PlainWords text) : SolidAhead (text ++ rest) := by
  cases words with
  | last isWord => exact isWord.ahead
  | next count isWord more =>
    rw [List.append_assoc]
    exact isWord.ahead

theorem scanPlainWords_line (words : PlainWords text) {indent count fuel : Nat} {gap : Gap}
    {plain : Plain} (cursor : plain.cursor = ⟨mark, text ++ '\n' :: (blanks count ++ rest)⟩)
    (inside : indent ≤ mark.column) (less : count < indent) (ahead : SolidAhead rest)
    (enough : text.length ≤ fuel) :
    scanPlainWords false indent start (fuel + 1) gap plain =
      .ok
        { text := plain.text ++ gap.text ++ text
          stop := mark.forward text.length
          broken := true
          cursor := ⟨(mark.forward text.length).nextLine.forward count, rest⟩ } := by
  have apart : plain.cursor.seesAnySeparator = false := by
    rw [cursor]
    exact Cursor.seesAnySeparator_within (by omega)
  induction words generalizing mark plain gap fuel with
  | last isWord =>
    have ends : EndsWord ('\n' :: (blanks count ++ rest)) := endsWord_gap (by decide)
    rw [scanPlainWords_word isWord ends cursor apart]
    exact behindWord_line rfl less ahead
  | @next word others spaces isWord more ih =>
    have ends : EndsWord (blanks (spaces + 1) ++ (others ++ '\n' :: (blanks count ++ rest))) :=
      endsWord_gap (by decide)
    have first : 0 < word.length := List.length_pos_iff.mpr isWord.filled
    have shape : word ++ (blanks (spaces + 1) ++ others) ++ '\n' :: (blanks count ++ rest) =
        word ++ (blanks (spaces + 1) ++ (others ++ '\n' :: (blanks count ++ rest))) := by
      simp
    rw [shape] at cursor
    simp only [List.length_append, blanks, List.length_replicate] at enough
    obtain ⟨fuel, rfl⟩ : ∃ n, fuel = n + 1 := ⟨fuel - 1, by omega⟩
    have further : mark.column ≤ (mark.forward word.length).column := by simp
    have within : mark.column < ((mark.forward word.length).forward (spaces + 1)).column := by
      rw [Mark.forward_forward, Mark.column_forward]
      omega
    rw [scanPlainWords_word isWord ends cursor apart,
      behindWord_blanks rfl (inside.trans further) more.ahead,
      ih rfl (by omega) (by omega) (Cursor.seesAnySeparator_within (Nat.zero_lt_of_lt within))]
    simp [Gap.text, blanks, Nat.add_assoc]

theorem scanPlain_line (words : PlainWords text) {indent count : Nat}
    (inside : indent ≤ mark.column) (less : count < indent) (ahead : SolidAhead rest) :
    scanPlain false indent ⟨mark, text ++ '\n' :: (blanks count ++ rest)⟩ =
      .ok
        { text
          stop := mark.forward text.length
          broken := true
          cursor := ⟨(mark.forward text.length).nextLine.forward count, rest⟩ } :=
  scanPlainWords_line words rfl inside less ahead (by simp)

theorem scanPlain_key (isWord : PlainWord text) {indent : Nat} {d : Char} (gap : ¬Solid d)
    (apart : Cursor.seesAnySeparator ⟨mark, text ++ ':' :: d :: rest⟩ = false) :
    scanPlain false indent ⟨mark, text ++ ':' :: d :: rest⟩ =
      .ok
        { text
          stop := mark.forward text.length
          broken := false
          cursor := ⟨mark.forward text.length, ':' :: d :: rest⟩ } := by
  rw [scanPlain, scanPlainWords_word isWord (endsWord_colon gap) rfl apart]
  exact behindWord_colon rfl

namespace KeyWord

variable {name : String} (word : KeyWord name)

include word

theorem solid : ∀ c ∈ name.toList, Solid c := by
  intro c member
  have letter := word.letters c member
  refine Decidable.byContradiction fun gap => ?_
  simp only [Solid, Bool.not_eq_false, isBlank, isBreak, Bool.or_eq_true, beq_iff_eq] at gap
  rcases gap with (rfl | rfl) | (((rfl | rfl) | rfl) | rfl) | rfl
  all_goals exact absurd letter (by decide)

theorem filled : name.toList ≠ [] :=
  Writing.ne_empty_of_plain word.plain

theorem other {c d : Char} (member : c ∈ name.toList)
    (sign : d.isAlpha = false) : c ≠ d := by
  rintro rfl
  exact absurd (word.letters c member) (by simp [sign])

theorem plainWord : PlainWord name.toList where
  filled := word.filled
  solid := word.solid
  noHash first := word.other (List.mem_of_head? first) (by decide) rfl
  noColon last := word.other (List.mem_of_getLast? last) (by decide) rfl

theorem apart (mark : Mark) (rest : List Char) :
    Cursor.seesAnySeparator ⟨mark, name.toList ++ rest⟩ = false := by
  obtain ⟨c, text, shape⟩ := List.exists_cons_of_ne_nil word.filled
  have first : c ∈ name.toList := shape ▸ List.mem_cons_self
  have noHyphen : c ≠ '-' := word.other first (by decide)
  have noPoint : c ≠ '.' := word.other first (by decide)
  simp [shape, Cursor.seesAnySeparator, Cursor.seesSeparator, Cursor.sees, Cursor.at?, noHyphen,
    noPoint]

end KeyWord

end Scalars

section Texts

variable {text before rest : List Char}

theorem anyPlace_eq_false {p : List Char → List Char → Bool} :
    Writing.anyPlace p before text = false ↔
      ∀ front behind, text = front ++ behind → p (front.reverse ++ before) behind = false := by
  induction text generalizing before with
  | nil => simp [Writing.anyPlace]
  | cons c text ih =>
    rw [Writing.anyPlace, Bool.or_eq_false_iff, ih]
    constructor
    · rintro ⟨here, later⟩ front behind split
      cases front with
      | nil =>
        obtain rfl : c :: text = behind := split
        exact here
      | cons d front =>
        obtain ⟨rfl, same⟩ := List.cons.inj split
        simpa using later front behind same
    · intro all
      refine ⟨all [] _ rfl, fun front behind split => ?_⟩
      simpa using all (c :: front) behind (congrArg _ split)

/-- The facts about a text that make it a plain scalar, with what is in front of it. -/
structure Plainly (before text : List Char) : Prop where
  printable : ∀ c ∈ text, Writing.isPrintable c = true
  oneLine : ∀ c ∈ text, isBreak c = false
  first : text.head? ≠ some ' '
  last : text.getLast? ≠ some ' '
  calm : ∀ front behind, text = front ++ behind →
    Writing.indicates (front.reverse ++ before) behind = false
  apart : before = [] ∨ before.head? = some ' '

theorem Plainly.of_allowsPlain (allowed : Writing.allowsPlain text = true) : Plainly [] text := by
  simp only [Writing.allowsPlain, Writing.needsDouble, Writing.isBroken, Bool.not_eq_true',
    Bool.or_eq_false_iff, List.any_eq_false] at allowed
  obtain ⟨⟨⟨⟨⟨⟨printable, _⟩, oneLine⟩, first⟩, last⟩, _⟩, calm⟩ := allowed
  refine ⟨?_, ?_, ?_, ?_, fun front behind split => ?_, .inl rfl⟩
  · simpa using printable
  · simpa using oneLine
  · intro space
    simp [space, Writing.isOuter] at first
  · intro space
    simp [space, Writing.isOuter] at last
  · exact anyPlace_eq_false.mp calm front behind split

namespace Plainly

variable (plainly : Plainly before text)

include plainly

theorem solid {c : Char} (member : c ∈ text) (other : c ≠ ' ') : Solid c :=
  solid_iff.mpr ⟨Bool.eq_false_iff.mpr fun blank =>
    other ((isBlank_printable (plainly.printable c member)).mp blank), plainly.oneLine c member⟩

theorem word {word behind : List Char} (split : text = word ++ behind) (filled : word ≠ [])
    (solid : ∀ c ∈ word, Solid c) (gap : behind = [] ∨ behind.head? = some ' ') :
    PlainWord word := by
  refine ⟨filled, solid, fun hash => ?_, fun colon => ?_⟩
  · obtain ⟨more, rfl⟩ := List.head?_eq_some_iff.mp hash
    have calm := plainly.calm [] _ rfl
    rw [split] at calm
    rcases plainly.apart with rfl | space
    · simp [Writing.indicates] at calm
    · obtain ⟨more, rfl⟩ := List.head?_eq_some_iff.mp space
      simp [Writing.indicates, Writing.endsWord, isBlank] at calm
  · obtain ⟨front, rfl⟩ := List.getLast?_eq_some_iff.mp colon
    have calm := plainly.calm front (':' :: behind) (by simp [split])
    have ends : Writing.endsWord behind = true := by
      rcases gap with rfl | space
      · rfl
      · simp [Writing.endsWord, space, isBlank]
    simp [Writing.indicates, ends] at calm

/-- Behind the first word and the blanks that follow it the text is plain as well. -/
theorem behind {word rest : List Char} {count : Nat}
    (split : text = word ++ (blanks (count + 1) ++ rest)) (first : rest.head? ≠ some ' ') :
    Plainly ((word ++ blanks (count + 1)).reverse ++ before) rest := by
  have member {c : Char} (here : c ∈ rest) : c ∈ text := by simp [split, here]
  refine ⟨fun c here => plainly.printable c (member here),
    fun c here => plainly.oneLine c (member here), first, fun last => plainly.last ?_,
    fun front behind same => ?_, .inr ?_⟩
  · simp [split, last]
  · have calm := plainly.calm (word ++ blanks (count + 1) ++ front) behind (by simp [split, same])
    simpa using calm
  · simp [blanks, List.replicate_succ']

end Plainly

theorem PlainWords.of_plainly {before text : List Char} (plainly : Plainly before text)
    (filled : text ≠ []) : PlainWords text := by
  obtain ⟨word, behind, split, run, ahead⟩ :=
    Text.exists_run (fun c => !(isBlank c || isBreak c)) text
  have solid : ∀ c ∈ word, Solid c := by simpa [Solid] using run
  have gap {c : Char} (first : behind.head? = some c) : c = ' ' := by
    have member : c ∈ text := by
      rw [split]
      exact List.mem_append_right _ (List.mem_of_head? first)
    refine Decidable.byContradiction fun other => ?_
    have here := solid_iff.mp (plainly.solid member other)
    exact absurd (ahead c first) (by simp [here])
  have first : word ≠ [] := by
    rintro rfl
    obtain ⟨c, more, rfl⟩ := List.exists_cons_of_ne_nil filled
    exact plainly.first (congrArg some (gap (congrArg List.head? split.symm)))
  -- No line breaks are in the text, so it is over behind the word, or a blank follows.
  cases behind with
  | nil =>
    rw [List.append_nil] at split
    subst split
    exact .last (plainly.word (List.append_nil _).symm first solid (.inl rfl))
  | cons c more =>
    have space : c = ' ' := gap rfl
    obtain ⟨spaces, rest, behind, all, ends⟩ := Text.exists_run (· == ' ') more
    have shape : text = word ++ (blanks (spaces.length + 1) ++ rest) := by
      have same : spaces = blanks spaces.length :=
        List.eq_replicate_iff.mpr ⟨rfl, fun d member => eq_of_beq (all d member)⟩
      rw [split, behind, space, same]
      simp [blanks, List.replicate_succ]
    have some : rest ≠ [] := by
      rintro rfl
      exact plainly.last (by simp [shape, blanks, List.replicate_succ'])
    have starts : rest.head? ≠ Option.some ' ' := fun first => absurd (ends ' ' first) (by decide)
    have shorter : rest.length < text.length := by
      simp [shape, blanks]
      omega
    have isWord := plainly.word split first solid (.inr (congrArg Option.some space))
    rw [shape]
    exact .next _ isWord (of_plainly (plainly.behind shape starts) some)
termination_by text.length

end Texts

end SchemaCheck.Yaml
