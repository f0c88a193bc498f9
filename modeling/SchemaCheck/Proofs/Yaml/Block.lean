import SchemaCheck.Proofs.Text.Run
import SchemaCheck.Proofs.Yaml.Cursor

/-!
Reading blocks of lines. A text that is printed as such a block is made of lines (`Lines`) behind
some line breaks, and the header says what is to happen to the line breaks at its end
(`chompingOf`). So the block is read as the text, whatever line breaks it ends with
(`scanBlock_literal`).
-/

namespace SchemaCheck.Yaml

def Breaks (text : List Char) : Prop :=
  ∀ c ∈ text, Writing.isPrintable c = true ∧ isBreak c = true

section Breaks

theorem Breaks.tail {c : Char} {breaks : List Char} (all : Breaks (c :: breaks)) : Breaks breaks :=
  (List.forall_mem_cons.mp all).2

variable {indent : Option Nat} {start mark : Mark} {n count fuel most : Nat}
  {breaks rest : List Char} {c : Char}

theorem length_span_blanks : (Cursor.span (· == ' ') ⟨mark, blanks count ++ rest⟩).length =
    count + (rest.takeWhile (· == ' ')).length := by
  have all : ∀ c ∈ blanks count, (c == ' ') = true := fun c member =>
    beq_iff_eq.mpr (List.eq_of_mem_replicate member)
  rw [Cursor.span, List.takeWhile_append_of_pos all, List.length_append, blanks,
    List.length_replicate]

/-- As many blanks as the indentation asks for are ahead, or fewer in front of something else. -/
def Indents (indent : Option Nat) (count : Nat) (rest : List Char) : Prop :=
  (indent = some count ∧ ∀ c ∈ rest.head?, isBreak c = false) ∨
    (indent.all (count < ·) = true ∧ SolidAhead rest)

/-- At the beginning of a line some blanks are passed, and then a line break if there is one. -/
theorem scanBlockBreaks_line (first : mark.column = 0)
    (room : (∀ n, indent = some n →
        min (Cursor.span (· == ' ') ⟨mark, blanks count ++ rest⟩).length n = count) ∧
      (indent = none → (Cursor.span (· == ' ') ⟨mark, blanks count ++ rest⟩).length = count))
    (noTab : (indent.all (count < ·) && Cursor.sees 0 '\t' ⟨mark.forward count, rest⟩) = false) :
    scanBlockBreaks indent start (fuel + 1) most ⟨mark, blanks count ++ rest⟩ =
      (let behind : Cursor := ⟨mark.forward count, rest⟩
      if behind.seesBreak then do
        let (breaks, most, last) ←
          scanBlockBreaks indent start fuel (max most count) behind.skipLine
        return (behind.lineBreak ++ breaks, most, last)
      else .ok ([], max most count, behind)) := by
  cases indent with
  | none =>
    simp only [scanBlockBreaks, room.2 rfl, Cursor.skip_blanks, Mark.column_forward, first,
      Nat.zero_add, noTab]
    rfl
  | some n =>
    simp only [scanBlockBreaks, first, Nat.sub_zero, room.1 n rfl, Cursor.skip_blanks,
      Mark.column_forward, Nat.zero_add, noTab]
    rfl

theorem scanBlockBreaks_blanks (indents : Indents indent count rest) (first : mark.column = 0) :
    scanBlockBreaks indent start (fuel + 1) most ⟨mark, blanks count ++ rest⟩ =
      .ok ([], max most count, ⟨mark.forward count, rest⟩) := by
  have stops (noBreak : ∀ c ∈ rest.head?, isBreak c = false) :
      Cursor.seesBreak ⟨mark.forward count, rest⟩ = false := by
    cases rest with
    | nil => rfl
    | cons c rest => exact noBreak c rfl
  rcases indents with ⟨given, noBreak⟩ | ⟨less, ahead⟩
  · subst given
    rw [scanBlockBreaks_line first (by simp [length_span_blanks]) (by simp)]
    dsimp only
    rw [stops noBreak]
    rfl
  · have noBreak : ∀ c ∈ rest.head?, isBreak c = false := fun c here =>
      (solid_iff.mp (ahead c here)).2
    have noBlank : rest.takeWhile (· == ' ') = [] := Text.takeWhile_noneAhead fun c here =>
      beq_eq_false_iff_ne.mpr fun same => absurd (same ▸ ahead c here : Solid ' ') (by decide)
    have noTab : Cursor.sees 0 '\t' ⟨mark.forward count, rest⟩ = false := by
      cases rest with
      | nil => rfl
      | cons c rest =>
        have other : c ≠ '\t' := fun same => absurd (same ▸ ahead c rfl : Solid '\t') (by decide)
        simp [Cursor.sees, Cursor.at?, other]
    have room : ∀ n, indent = some n → min count n = count := by
      rintro n rfl
      exact Nat.min_eq_left (Nat.le_of_lt (by simpa using less))
    rw [scanBlockBreaks_line first (by simpa [length_span_blanks, noBlank] using room)
      (by rw [noTab, Bool.and_false])]
    dsimp only
    rw [stops noBreak]
    rfl

theorem scanBlockBreaks_break (printable : Writing.isPrintable c = true) (ends : isBreak c = true)
    (first : mark.column = 0) :
    scanBlockBreaks indent start (fuel + 1) most ⟨mark, c :: rest⟩ =
      (do
        let (breaks, most, last) ← scanBlockBreaks indent start fuel most ⟨mark.nextLine, rest⟩
        return (c :: breaks, most, last)) := by
  have noBlank : (c == ' ') = false := by
    rcases isBreak_printable printable ends with rfl | rfl | rfl <;> decide
  have noTab : Cursor.sees 0 '\t' ⟨mark.forward 0, c :: rest⟩ = false := by
    simp [Cursor.sees, Cursor.at?, noTab_of_printable printable]
  have none : Cursor.span (· == ' ') ⟨mark, blanks 0 ++ c :: rest⟩ = [] := by
    simp [Cursor.span, blanks, noBlank]
  have line : scanBlockBreaks indent start (fuel + 1) most ⟨mark, blanks 0 ++ c :: rest⟩ = _ :=
    scanBlockBreaks_line first (by simp [none]) (by rw [noTab, Bool.and_false])
  refine line.trans ?_
  dsimp only
  rw [Cursor.seesBreak_cons, ends, Cursor.lineBreak_printable printable ends,
    Cursor.skipLine_printable printable ends, Nat.max_zero]
  rfl

theorem scanBlockBreaks_breaks (all : Breaks breaks) (indents : Indents indent count rest)
    (first : mark.column = 0) (start : Mark) (most : Nat) (enough : breaks.length < fuel) :
    ∃ last : Mark,
    last.column = count ∧
      scanBlockBreaks indent start fuel most ⟨mark, breaks ++ (blanks count ++ rest)⟩ =
        .ok (breaks, max most count, ⟨last, rest⟩) := by
  induction breaks generalizing mark fuel with
  | nil =>
    obtain ⟨fuel, rfl⟩ : ∃ n, fuel = n + 1 := ⟨fuel - 1, by simp at enough; omega⟩
    exact ⟨mark.forward count, by simp [first], scanBlockBreaks_blanks indents first⟩
  | cons c breaks ih =>
    rw [List.length_cons] at enough
    obtain ⟨fuel, rfl⟩ : ∃ n, fuel = n + 1 := ⟨fuel - 1, by omega⟩
    obtain ⟨printable, ends⟩ := all c List.mem_cons_self
    obtain ⟨last, column, read⟩ :=
      ih all.tail mark.column_nextLine (Nat.lt_of_succ_lt_succ enough)
    refine ⟨last, column, ?_⟩
    rw [List.cons_append, scanBlockBreaks_break printable ends first, read]
    rfl

theorem scanBlockBreaks_behind (all : Breaks breaks) (indents : Indents indent count rest)
    (start mark : Mark) : ∃ last : Mark, last.column = count ∧
      scanBlockBreaks indent start ((breaks ++ (blanks count ++ rest)).length + 1) 0
          ⟨mark.nextLine, breaks ++ (blanks count ++ rest)⟩ =
        .ok (breaks, count, ⟨last, rest⟩) := by
  have enough : breaks.length < (breaks ++ (blanks count ++ rest)).length + 1 := by
    rw [List.length_append]
    omega
  obtain ⟨last, column, read⟩ :=
    scanBlockBreaks_breaks all indents mark.column_nextLine start 0 enough
  rw [Nat.zero_max] at read
  exact ⟨last, column, read⟩

end Breaks

section Chomping

/-- What is to happen to the line breaks at the end of a text, so that it is kept as it is. -/
def chompingOf (text : List Char) : Chomping :=
  match text.reverse with
  | c :: rest =>
    if !isBreak c then .strip
    else if rest.head?.all isBreak then .keep
    else .clip
  | [] => .strip

def BlockLines.tail (lines : BlockLines) : Chomping → List Char
  | .strip => []
  | .clip => lines.lastBreak
  | .keep => lines.lastBreak ++ lines.others

variable {front line breaks rest : List Char} {c : Char}

theorem chompingOf_append (noBreak : isBreak c = false) :
    chompingOf (front ++ c :: rest) = chompingOf (c :: rest) := by
  simp only [chompingOf, List.reverse_append, List.reverse_cons, List.append_assoc]
  generalize rest.reverse = behind
  rcases behind with _ | ⟨d, _ | ⟨e, more⟩⟩
  · simp [noBreak]
  · simp [noBreak]
  · rfl

theorem chompingOf_line (filled : line ≠ []) (noBreak : ∀ c ∈ line, isBreak c = false) :
    chompingOf line = .strip := by
  obtain ⟨front, c, rfl⟩ := List.eq_nil_or_concat line |>.resolve_left filled
  have last : isBreak c = false := noBreak c (by simp)
  simp [chompingOf, last]

theorem chompingOf_several (all : Breaks (c :: breaks)) (several : breaks ≠ [])
    (front : List Char) : chompingOf (front ++ c :: breaks) = .keep := by
  obtain ⟨others, e, rfl⟩ := List.eq_nil_or_concat breaks |>.resolve_left several
  obtain ⟨first, d, split⟩ :=
    List.eq_nil_or_concat (c :: others) |>.resolve_left (List.cons_ne_nil c others)
  have shape : c :: others.concat e = first ++ [d, e] := by
    rw [List.concat_eq_append, ← List.cons_append, split]
    simp
  rw [shape] at all ⊢
  have before : isBreak d = true := (all d (by simp)).2
  have ends : isBreak e = true := (all e (by simp)).2
  simp [chompingOf, before, ends]

theorem chompingOf_breaks (filled : line ≠ []) (noBreak : ∀ c ∈ line, isBreak c = false)
    (all : Breaks (c :: breaks)) :
    chompingOf (line ++ c :: breaks) = if breaks = [] then .clip else .keep := by
  by_cases single : breaks = []
  · obtain ⟨front, d, rfl⟩ := List.eq_nil_or_concat line |>.resolve_left filled
    have last : isBreak d = false := noBreak d (by simp)
    have first : isBreak c = true := (all c List.mem_cons_self).2
    simp [chompingOf, single, first, last]
  · rw [if_neg single, chompingOf_several all single]

theorem chompingOf_all (all : Breaks (c :: breaks)) : chompingOf (c :: breaks) = .keep := by
  by_cases single : breaks = []
  · have first : isBreak c = true := (all c List.mem_cons_self).2
    simp [chompingOf, single, first]
  · exact chompingOf_several all single []

end Chomping

section Lines

/-- Lines of a text, the last with or without line breaks behind it. -/
inductive Lines : List Char → Prop where
  | last {line : List Char} (filled : line ≠ []) (noBreak : ∀ c ∈ line, isBreak c = false) :
    Lines line
  | ended {line breaks : List Char} {c : Char} (filled : line ≠ [])
    (noBreak : ∀ c ∈ line, isBreak c = false) (all : Breaks (c :: breaks)) :
    Lines (line ++ c :: breaks)
  | next {line breaks rest : List Char} {c d : Char} (filled : line ≠ [])
    (noBreak : ∀ c ∈ line, isBreak c = false) (all : Breaks (c :: breaks))
    (other : isBreak d = false) (more : Lines (d :: rest)) :
    Lines (line ++ c :: (breaks ++ d :: rest))

variable {indent count : Nat} {mark : Mark} {lines : BlockLines}
  {line breaks text rest : List Char} {c : Char}

theorem literalBody_cons (other : isBreak c = false) (broken : Bool) (rest : List Char) :
    literalBody indent broken (c :: rest) =
      (if broken then blanks indent else []) ++ c :: literalBody indent false rest :=
  if_neg (by simp [other])

theorem literalBody_line (noBreak : ∀ c ∈ line, isBreak c = false) (rest : List Char) :
    literalBody indent false (line ++ rest) = line ++ literalBody indent false rest := by
  induction line with
  | nil => rfl
  | cons c line ih =>
    rw [List.cons_append, literalBody_cons (noBreak c List.mem_cons_self),
      ih fun d member => noBreak d (List.mem_cons_of_mem c member)]
    rfl

theorem literalBody_breaks (all : Breaks breaks) (rest : List Char) :
    literalBody indent true (breaks ++ rest) = breaks ++ literalBody indent true rest := by
  induction breaks with
  | nil => rfl
  | cons c breaks ih =>
    rw [List.cons_append, literalBody, if_pos (all c List.mem_cons_self).2, ih all.tail]
    rfl

theorem literalBody_ended (indent : Nat) (noBreak : ∀ c ∈ line, isBreak c = false)
    (all : Breaks (c :: breaks)) (rest : List Char) :
    literalBody indent false (line ++ c :: (breaks ++ rest)) =
      line ++ c :: (breaks ++ literalBody indent true rest) := by
  rw [literalBody_line noBreak, literalBody, if_pos (all c List.mem_cons_self).2,
    literalBody_breaks all.tail]

theorem literalBody_next (indent : Nat) (noBreak : ∀ c ∈ line, isBreak c = false)
    (all : Breaks (c :: breaks)) {d : Char} (other : isBreak d = false) (more : List Char) :
    literalBody indent false (line ++ c :: (breaks ++ d :: more)) =
      line ++ c :: (breaks ++ (blanks indent ++ literalBody indent false (d :: more))) := by
  rw [literalBody_ended indent noBreak all, literalBody_cons other true,
    literalBody_cons other false]
  rfl

theorem length_le_literalBody (indent : Nat) (broken : Bool) (text : List Char) :
    text.length ≤ (literalBody indent broken text).length := by
  induction text generalizing broken with
  | nil => exact Nat.zero_le _
  | cons c text ih =>
    have within := ih false
    have behind := ih true
    rw [literalBody]
    split <;> simp <;> omega

theorem scanBlockLines_line (noBreak : ∀ c ∈ line, isBreak c = false)
    (printable : Writing.isPrintable c = true) (ends : isBreak c = true)
    (cursor : lines.cursor = ⟨mark, line ++ c :: rest⟩) (column : mark.column = indent)
    (start : Mark) (fuel : Nat) (behindBlank : Bool) : ∃ blank,
      scanBlockLines true indent start (fuel + 1) behindBlank lines =
        (do
          let (others, _, behind) ← scanBlockBreaks (some indent) start (rest.length + 1) 0
            ⟨(mark.forward line.length).nextLine, rest⟩
          scanBlockLines true indent start fuel blank
            ⟨lines.text ++ (lines.lastBreak ++ lines.others) ++ line, [c], others, behind⟩) := by
  have starts : ¬(mark.column ≠ indent ∨ (line ++ c :: rest).isEmpty = true) := by simp [column]
  have taken : Cursor.span (!isBreak ·) ⟨mark, line ++ c :: rest⟩ = line :=
    Text.takeWhile_run (by simpa using noBreak) (Text.noneAhead_cons (by simp [ends]) rest)
  refine ⟨Cursor.seesBlank ⟨mark, line ++ c :: rest⟩, ?_⟩
  rw [scanBlockLines]
  dsimp only
  rw [cursor, if_neg starts, taken, Cursor.skip_append, Cursor.lineBreak_printable printable ends,
    Cursor.skipLine_printable printable ends]
  rfl

theorem scanBlockLines_done (outside : lines.cursor.mark.column ≠ indent) (start : Mark)
    (fuel : Nat) (behindBlank : Bool) :
    scanBlockLines true indent start fuel behindBlank lines = .ok lines := by
  cases fuel with
  | zero => rfl
  | succ fuel =>
    rw [scanBlockLines]
    exact if_pos (.inl outside)

theorem scanBlockLines_last (noBreak : ∀ c ∈ line, isBreak c = false) (all : Breaks (c :: breaks))
    (cursor : lines.cursor = ⟨mark, line ++ c :: (breaks ++ (blanks count ++ rest))⟩)
    (column : mark.column = indent) (less : count < indent) (ahead : SolidAhead rest)
    (start : Mark) (fuel : Nat) (behindBlank : Bool) :
    ∃ last : Mark, last.column = count ∧
      scanBlockLines true indent start (fuel + 1) behindBlank lines =
        .ok ⟨lines.text ++ (lines.lastBreak ++ lines.others) ++ line, [c], breaks,
          ⟨last, rest⟩⟩ := by
  obtain ⟨printable, ends⟩ := all c List.mem_cons_self
  have indents : Indents (some indent) count rest := .inr ⟨by simpa using less, ahead⟩
  obtain ⟨blank, read⟩ :=
    scanBlockLines_line noBreak printable ends cursor column start fuel behindBlank
  obtain ⟨last, outside, passed⟩ :=
    scanBlockBreaks_behind all.tail indents start (mark.forward line.length)
  refine ⟨last, outside, ?_⟩
  rw [read, passed]
  exact scanBlockLines_done (by simp; omega) start fuel blank

theorem scanBlockLines_next (noBreak : ∀ c ∈ line, isBreak c = false) (all : Breaks (c :: breaks))
    (cursor : lines.cursor = ⟨mark, line ++ c :: (breaks ++ (blanks indent ++ rest))⟩)
    (column : mark.column = indent) (ahead : ∀ d ∈ rest.head?, isBreak d = false)
    (start : Mark) (fuel : Nat) (behindBlank : Bool) :
    ∃ (last : Mark) (blank : Bool), last.column = indent ∧
      scanBlockLines true indent start (fuel + 1) behindBlank lines =
        scanBlockLines true indent start fuel blank
          ⟨lines.text ++ (lines.lastBreak ++ lines.others) ++ line, [c], breaks,
            ⟨last, rest⟩⟩ := by
  obtain ⟨printable, ends⟩ := all c List.mem_cons_self
  have indents : Indents (some indent) indent rest := .inl ⟨rfl, ahead⟩
  obtain ⟨blank, read⟩ :=
    scanBlockLines_line noBreak printable ends cursor column start fuel behindBlank
  obtain ⟨last, inside, passed⟩ :=
    scanBlockBreaks_behind all.tail indents start (mark.forward line.length)
  refine ⟨last, blank, inside, ?_⟩
  rw [read, passed]
  rfl

theorem lineEnd_line (noBreak : ∀ c ∈ line, isBreak c = false) : lineEnd line = ['\n'] := by
  rcases List.eq_nil_or_concat line with rfl | ⟨front, c, rfl⟩
  · rfl
  · have last : isBreak c = false := noBreak c (by simp)
    simp [lineEnd, last]

theorem lineEnd_append (filled : text ≠ []) (front : List Char) :
    lineEnd (front ++ text) = lineEnd text := by
  rw [lineEnd, lineEnd, List.getLast?_append_of_ne_nil _ filled]

theorem lineEnd_breaks (all : Breaks (c :: breaks)) : lineEnd (c :: breaks) = [] := by
  have last : isBreak ((c :: breaks).getLast (List.cons_ne_nil _ _)) = true :=
    (all _ (List.getLast_mem _)).2
  rw [lineEnd, List.getLast?_eq_some_getLast (List.cons_ne_nil _ _)]
  exact if_pos last

/-- What is read of some lines: with the line breaks that are kept, it is their text. -/
theorem scanBlockLines_lines (isLines : Lines text)
    (cursor : lines.cursor = ⟨mark, literalBody indent false text ++
      (lineEnd text ++ (blanks count ++ rest))⟩)
    (column : mark.column = indent) (less : count < indent) (ahead : SolidAhead rest)
    (start : Mark) {fuel : Nat} (enough : text.length ≤ fuel) (behindBlank : Bool) :
    ∃ read : BlockLines, read.cursor.mark.column = count ∧ read.cursor.rest = rest ∧
      read.text ++ read.tail (chompingOf text) =
        lines.text ++ (lines.lastBreak ++ lines.others) ++ text ∧
      scanBlockLines true indent start fuel behindBlank lines = .ok read := by
  induction isLines generalizing mark fuel behindBlank lines with
  | @last line filled noBreak =>
    have some : 0 < line.length := List.length_pos_iff.mpr filled
    obtain ⟨fuel, rfl⟩ : ∃ n, fuel = n + 1 := ⟨fuel - 1, by omega⟩
    have feed : Breaks ['\n'] := List.forall_mem_singleton.mpr (by decide)
    have body : literalBody indent false line = line := by
      simpa [literalBody] using literalBody_line noBreak []
    rw [body, lineEnd_line noBreak] at cursor
    obtain ⟨last, outside, read⟩ :=
      scanBlockLines_last noBreak feed cursor column less ahead start fuel behindBlank
    refine ⟨_, outside, rfl, ?_, read⟩
    rw [chompingOf_line filled noBreak]
    exact List.append_nil _
  | @ended line breaks c filled noBreak all =>
    rw [List.length_append, List.length_cons] at enough
    obtain ⟨fuel, rfl⟩ : ∃ n, fuel = n + 1 := ⟨fuel - 1, by omega⟩
    have body := literalBody_ended indent noBreak all []
    simp only [List.append_nil, literalBody] at body
    rw [body, lineEnd_append (List.cons_ne_nil _ _), lineEnd_breaks all,
      List.append_assoc] at cursor
    obtain ⟨last, outside, read⟩ :=
      scanBlockLines_last noBreak all cursor column less ahead start fuel behindBlank
    refine ⟨_, outside, rfl, ?_, read⟩
    rw [chompingOf_breaks filled noBreak all]
    cases breaks <;> simp [BlockLines.tail]
  | @next line breaks more c d filled noBreak all other isLines ih =>
    rw [List.length_append, List.length_cons, List.length_append] at enough
    obtain ⟨fuel, rfl⟩ : ∃ n, fuel = n + 1 := ⟨fuel - 1, by omega⟩
    have shape : line ++ c :: (breaks ++ d :: more) = (line ++ c :: breaks) ++ d :: more := by simp
    have ahead : ∀ e ∈ (literalBody indent false (d :: more) ++
        (lineEnd (d :: more) ++ (blanks count ++ rest))).head?, isBreak e = false := by
      rw [literalBody_cons other]
      intro e first
      exact Option.some.inj first ▸ other
    have placed : lines.cursor = ⟨mark, line ++ c :: (breaks ++ (blanks indent ++
        (literalBody indent false (d :: more) ++
          (lineEnd (d :: more) ++ (blanks count ++ rest)))))⟩ := by
      rw [cursor, literalBody_next indent noBreak all other, shape,
        lineEnd_append (List.cons_ne_nil _ _)]
      simp
    obtain ⟨last, blank, inside, first⟩ :=
      scanBlockLines_next noBreak all placed column ahead start fuel behindBlank
    have goesOn : (⟨lines.text ++ (lines.lastBreak ++ lines.others) ++ line, [c], breaks,
        ⟨last, literalBody indent false (d :: more) ++ (lineEnd (d :: more) ++
          (blanks count ++ rest))⟩⟩ : BlockLines).cursor = ⟨last, _⟩ := rfl
    have shorter : (d :: more).length ≤ fuel := by omega
    obtain ⟨read, outside, left, kept, others⟩ := ih goesOn inside shorter blank
    refine ⟨read, outside, left, ?_, first.trans others⟩
    rw [shape, chompingOf_append other, kept]
    simp

theorem Lines.of_printable {text : List Char}
    (printable : ∀ c ∈ text, Writing.isPrintable c = true) (filled : text ≠ [])
    (first : ∀ c ∈ text.head?, isBreak c = false) : Lines text := by
  obtain ⟨line, behind, split, run, ahead⟩ := Text.exists_run (!isBreak ·) text
  have noBreak : ∀ c ∈ line, isBreak c = false := by simpa using run
  have some : line ≠ [] := by
    rintro rfl
    obtain ⟨c, more, rfl⟩ := List.exists_cons_of_ne_nil filled
    have starts : behind.head? = Option.some c := congrArg List.head? split.symm
    exact absurd (ahead c starts) (by simp [first c rfl])
  cases behind with
  | nil =>
    rw [split, List.append_nil]
    exact .last some noBreak
  | cons c behind =>
    obtain ⟨breaks, rest, rfl, run, ends⟩ := Text.exists_run isBreak behind
    have isEnd : isBreak c = true := by simpa using ahead c rfl
    have all : Breaks (c :: breaks) := by
      intro d member
      have inside : d ∈ text := by
        rw [split, ← List.cons_append]
        exact List.mem_append_right _ (List.mem_append_left _ member)
      refine ⟨printable d inside, ?_⟩
      rcases List.mem_cons.mp member with rfl | later
      · exact isEnd
      · exact run d later
    cases rest with
    | nil =>
      rw [split, List.append_nil]
      exact .ended some noBreak all
    | cons d rest =>
      have shorter : (d :: rest).length < text.length := by
        simp [split]
        omega
      have printable : ∀ e ∈ d :: rest, Writing.isPrintable e = true := fun e member =>
        printable e (by simp [split, List.mem_cons.mp member])
      rw [split]
      exact .next some noBreak all (ends d rfl)
        (of_printable printable (List.cons_ne_nil _ _) ends)
termination_by text.length

end Lines

section Blocks

def Chomping.sign : Chomping → List Char
  | .strip => ['-']
  | .clip => []
  | .keep => ['+']

variable {start mark : Mark} {text rest : List Char}

theorem literalHints_eq (text : List Char) : (Pen.literalHints text).toList =
    (if text.head?.any Writing.isOuter then ['2'] else []) ++ (chompingOf text).sign := by
  rw [Pen.literalHints, chompingOf, String.toList_append]
  congr 1
  · split <;> rfl
  · cases text.reverse with
    | nil => rfl
    | cons c rest =>
      dsimp only
      split
      · rfl
      split <;> rfl

theorem scanBlockHeader_hints (outer : Bool) (chomping : Chomping) : ∃ last : Mark,
    scanBlockHeader true start
        ⟨mark, (if outer then ['2'] else []) ++ (chomping.sign ++ '\n' :: rest)⟩ =
      .ok (⟨true, chomping, if outer then some 2 else none⟩, ⟨last, '\n' :: rest⟩) := by
  cases outer <;> cases chomping <;> exact ⟨_, rfl⟩

/-- What is read of a block of a text behind its header. -/
def behindHeader (parent : Int) (outer : Bool) (chomping : Chomping) (start : Mark)
    (cursor : Cursor) : Except Fault (List Char × Cursor) := do
  let given := if outer then some (parent.toNat + 2) else none
  let (others, most, behind) ←
    scanBlockBreaks given start (cursor.rest.length + 1) 0 cursor
  let indent := given.getD (max (max most (parent + 1).toNat) 1)
  let lines ← scanBlockLines true indent start (behind.rest.length + 1) false
    { text := [], lastBreak := [], others, cursor := behind }
  return (lines.text ++ lines.tail chomping, lines.cursor)

theorem scanBlock_header (parent : Int) (outer : Bool) (chomping : Chomping) : ∃ last : Mark,
    scanBlock true parent
        ⟨mark, '|' :: ((if outer then ['2'] else []) ++ (chomping.sign ++ '\n' :: rest))⟩ =
      behindHeader parent outer chomping mark ⟨last.nextLine, rest⟩ := by
  obtain ⟨last, header⟩ : ∃ last : Mark, scanBlockHeader true mark (Cursor.skip 1
      ⟨mark, '|' :: ((if outer then ['2'] else []) ++ (chomping.sign ++ '\n' :: rest))⟩) =
        .ok (⟨true, chomping, if outer then some 2 else none⟩, ⟨last, '\n' :: rest⟩) :=
    scanBlockHeader_hints outer chomping
  refine ⟨last, ?_⟩
  rw [scanBlock]
  dsimp only
  rw [header]
  cases outer <;> cases chomping <;> rfl

variable {parent : Int} {indent count : Nat}

theorem behindHeader_breaks {breaks : List Char} (all : Breaks breaks)
    (deeper : indent = parent.toNat + 2) (less : count < indent) (ahead : SolidAhead rest) :
    ∃ last : Mark, last.column = count ∧
      behindHeader parent true .keep start ⟨mark.nextLine, breaks ++ (blanks count ++ rest)⟩ =
        .ok (breaks, ⟨last, rest⟩) := by
  have indents : Indents (some indent) count rest := .inr ⟨by simpa using less, ahead⟩
  obtain ⟨last, column, passed⟩ := scanBlockBreaks_behind all indents start mark
  refine ⟨last, column, ?_⟩
  have outside : last.column ≠ indent := by omega
  rw [behindHeader]
  simp only [if_true, ← deeper, Option.getD_some]
  rw [passed]
  simp only [bind, Except.bind]
  rw [scanBlockLines_done outside]
  rfl

theorem behindHeader_lines {breaks : List Char} {d : Char} (nested : 0 ≤ parent)
    (deeper : indent = parent.toNat + 2) (all : Breaks breaks) (lines : Lines (d :: text))
    (other : isBreak d = false) {outer : Bool} (inner : outer = false → breaks = [] ∧ Solid d)
    (less : count < indent) (ahead : SolidAhead rest) :
    ∃ last : Mark, last.column = count ∧
      behindHeader parent outer (chompingOf (d :: text)) start
          ⟨mark.nextLine, breaks ++ (blanks indent ++ (literalBody indent false (d :: text) ++
            (lineEnd (d :: text) ++ (blanks count ++ rest))))⟩ =
        .ok (breaks ++ d :: text, ⟨last, rest⟩) := by
  have indents : Indents (if outer then some (parent.toNat + 2) else none) indent
      (literalBody indent false (d :: text) ++
        (lineEnd (d :: text) ++ (blanks count ++ rest))) := by
    rw [literalBody_cons other]
    cases outer with
    | true => exact .inl ⟨congrArg some deeper.symm, fun e first => Option.some.inj first ▸ other⟩
    | false => exact .inr ⟨rfl, solidAhead_cons.mpr (inner rfl).2⟩
  obtain ⟨first, column, passed⟩ := scanBlockBreaks_behind all indents start mark
  have found : (if outer then some (parent.toNat + 2) else none).getD
      (max (max indent (parent + 1).toNat) 1) = indent := by
    cases outer <;> simp <;> omega
  have long := length_le_literalBody indent false (d :: text)
  have enough : (d :: text).length ≤ (literalBody indent false (d :: text) ++
      (lineEnd (d :: text) ++ (blanks count ++ rest))).length + 1 := by
    rw [List.length_append]
    omega
  let none : BlockLines := ⟨[], [], breaks, ⟨first, literalBody indent false (d :: text) ++
    (lineEnd (d :: text) ++ (blanks count ++ rest))⟩⟩
  obtain ⟨read, outside, left, kept, goesOn⟩ := scanBlockLines_lines lines
    (rfl : none.cursor = _) column less ahead start enough false
  refine ⟨read.cursor.mark, outside, ?_⟩
  rw [behindHeader, passed]
  simp only [bind, Except.bind]
  rw [found, goesOn, ← left]
  exact congrArg (fun all => Except.ok (all, read.cursor)) kept

theorem solid_of_inner {breaks : List Char} {d : Char} (all : Breaks breaks)
    (printable : Writing.isPrintable d = true) (other : isBreak d = false) (more : List Char)
    (inner : (breaks ++ d :: more).head?.any Writing.isOuter = false) : breaks = [] ∧ Solid d := by
  cases breaks with
  | nil =>
    have noBlank : isBlank d ≠ true := by
      rw [Ne, isBlank_printable printable]
      rintro rfl
      simp [Writing.isOuter] at inner
    exact ⟨rfl, solid_iff.mpr ⟨Bool.eq_false_iff.mpr noBlank, other⟩⟩
  | cons c breaks =>
    have isEnd := (all c List.mem_cons_self).2
    simp [Writing.isOuter, isEnd] at inner

/-- A block is read up to what is indented less. -/
theorem scanBlock_literal (nested : 0 ≤ parent) (deeper : indent = parent.toNat + 2)
    (printable : ∀ c ∈ text, Writing.isPrintable c = true) (filled : text ≠ [])
    (less : count < indent) (ahead : SolidAhead rest) :
    ∃ last : Mark, last.column = count ∧
      scanBlock true parent ⟨mark, '|' :: ((Pen.literalHints text).toList ++
        '\n' :: (literalBody indent true text ++ (lineEnd text ++ (blanks count ++ rest))))⟩ =
          .ok (text, ⟨last, rest⟩) := by
  obtain ⟨breaks, more, rfl, run, ends⟩ := Text.exists_run isBreak text
  have all : Breaks breaks := fun c member =>
    ⟨printable c (List.mem_append_left _ member), run c member⟩
  obtain ⟨header, read⟩ : ∃ header : Mark, scanBlock true parent
      ⟨mark, '|' :: ((Pen.literalHints (breaks ++ more)).toList ++
        '\n' :: (literalBody indent true (breaks ++ more) ++
          (lineEnd (breaks ++ more) ++ (blanks count ++ rest))))⟩ =
      behindHeader parent ((breaks ++ more).head?.any Writing.isOuter)
        (chompingOf (breaks ++ more)) mark ⟨header.nextLine, breaks ++
          (literalBody indent true more ++
            (lineEnd (breaks ++ more) ++ (blanks count ++ rest)))⟩ := by
    rw [literalHints_eq, List.append_assoc, literalBody_breaks all, List.append_assoc]
    exact scanBlock_header parent _ _
  rw [read]
  cases more with
  | nil =>
    rw [List.append_nil] at filled ⊢
    obtain ⟨c, breaks, rfl⟩ := List.exists_cons_of_ne_nil filled
    have outer : (c :: breaks).head?.any Writing.isOuter = true := by
      simp [Writing.isOuter, (all c List.mem_cons_self).2]
    rw [outer, chompingOf_all all, lineEnd_breaks all]
    exact behindHeader_breaks all deeper less ahead
  | cons d more =>
    have other : isBreak d = false := ends d rfl
    have lines : Lines (d :: more) := .of_printable
      (fun c member => printable c (List.mem_append_right _ member)) (List.cons_ne_nil _ _) ends
    have body : literalBody indent true (d :: more) =
        blanks indent ++ literalBody indent false (d :: more) := by
      rw [literalBody_cons other, literalBody_cons other]
      rfl
    have inner := solid_of_inner all (printable d (by simp)) other more
    rw [chompingOf_append other, lineEnd_append (List.cons_ne_nil _ _), body, List.append_assoc]
    exact behindHeader_lines nested deeper all lines other inner less ahead

end Blocks

end SchemaCheck.Yaml
