import SchemaCheck.Proofs.Text.Hex
import SchemaCheck.Proofs.Yaml.Cursor

/-!
Reading quoted scalars. What is written between quotes is told part by part (`Quoted`): characters,
blanks, line breaks and the indentation behind them. Whatever has been put between single or double
quotes is written in this way, and all of it is read back (`scanQuoted_quoted`).
-/

namespace SchemaCheck.Yaml

def quote (single : Bool) : Char := if single then '\'' else '"'

section Characters

variable {single : Bool} {start mark : Mark} {c : Char} {written rest : List Char} {fuel : Nat}

theorem solid_quote : Solid (quote single) := by cases single <;> decide

/-- What is written for a character of a word, whatever follows. -/
structure SpellsChar (single : Bool) (c : Char) (written : List Char) : Prop where
  ahead : SolidAhead written
  filled : written ≠ []
  read : ∀ start fuel mark rest, scanQuotedWord single start (fuel + 1) ⟨mark, written ++ rest⟩ =
    (do
      let (word, ending) ← scanQuotedWord single start fuel ⟨mark.forward written.length, rest⟩
      return (c :: word, ending))

theorem scanQuotedWord_done (ahead : ¬SolidAhead rest) :
    scanQuotedWord single start fuel ⟨mark, rest⟩ = .ok ([], false, ⟨mark, rest⟩) := by
  cases fuel with
  | zero => rfl
  | succ fuel =>
    cases rest with
    | nil => rfl
    | cons c rest =>
      rw [solidAhead_cons, Solid, Bool.not_eq_false] at ahead
      rw [scanQuotedWord]
      simp only [Cursor.at?, List.getElem?_cons_zero, if_pos ahead]

theorem scanQuotedWord_quote (once : rest.head? ≠ some (quote single)) :
    scanQuotedWord single start fuel ⟨mark, quote single :: rest⟩ =
      .ok ([], false, ⟨mark, quote single :: rest⟩) := by
  cases fuel with
  | zero => rfl
  | succ fuel =>
    have alone : Cursor.sees 1 (quote single) ⟨mark, quote single :: rest⟩ = false := by
      cases rest <;> simp_all [Cursor.sees, Cursor.at?]
    rw [scanQuotedWord]
    simp only [Cursor.at?, List.getElem?_cons_zero]
    rw [show (isBlank (quote single) || isBreak (quote single)) = false from solid_quote]
    cases single with
    | false => rfl
    | true =>
      rw [show Cursor.sees 1 '\'' _ = false from alone]
      rfl

end Characters

section Words

/-- How reading goes on behind a word of a quoted scalar. -/
def behindQuotedWord (single : Bool) (start : Mark) (fuel : Nat) :
    List Char × Bool × Cursor → Except Fault (List Char × Cursor)
  | (word, escapedBreak, behind) =>
    if !escapedBreak && behind.sees 0 (quote single) then return (word, behind.skip 1)
    else
      let gap : Gap := { broken := escapedBreak }
      if escapedBreak && behind.sees 0 (quote single) then
        return (word ++ gap.text, behind.skip 1)
      else do
        let (gap, behind) ← scanGap (fun _ => false) start behind.rest.length gap behind
        let (rest, behind) ← scanQuotedWords single start fuel behind
        return (word ++ gap.text ++ rest, behind)

variable {single : Bool} {start : Mark} {c : Char} {fuel : Nat}

theorem scanQuotedWords_within {cursor : Cursor} (within : 0 < cursor.mark.column)
    (filled : cursor.rest ≠ []) :
    scanQuotedWords single start (fuel + 1) cursor =
      (scanQuotedWord single start cursor.rest.length cursor >>=
        behindQuotedWord single start fuel) := by
  rw [scanQuotedWords]
  dsimp only
  rw [Cursor.seesAnySeparator_within within, List.isEmpty_eq_false_iff.mpr filled]
  rfl

theorem behindQuotedWord_cons (word : List Char) (ending : Bool × Cursor) :
    behindQuotedWord single start fuel (c :: word, ending) =
      (do
        let (text, behind) ← behindQuotedWord single start fuel (word, ending)
        return (c :: text, behind)) := by
  obtain ⟨escapedBreak, behind⟩ := ending
  rw [behindQuotedWord, behindQuotedWord]
  dsimp only
  split
  · rfl
  split
  · rfl
  cases scanGap (fun _ => false) start behind.rest.length { broken := escapedBreak } behind with
  | error fault => rfl
  | ok gapped =>
    cases more : scanQuotedWords single start fuel gapped.2 with
    | error fault => simp [bind, Except.bind, more]
    | ok text => simp [bind, Except.bind, more, pure, Except.pure]

end Words

section Gaps

variable {single broken : Bool} {start mark : Mark} {gap : Gap} {c : Char}
  {text written rest : List Char} {fuel gapFuel : Nat}

def throughGap (single : Bool) (start : Mark) (fuel gapFuel : Nat) (gap : Gap) (cursor : Cursor) :
    Except Fault (List Char × Cursor) := do
  let (gap, behind) ← scanGap (fun _ => false) start gapFuel gap cursor
  let (rest, behind) ← scanQuotedWords single start fuel behind
  return (gap.text ++ rest, behind)

theorem throughGap_blank : throughGap single start fuel (gapFuel + 1) gap ⟨mark, ' ' :: rest⟩ =
    throughGap single start fuel gapFuel (gap.addBlank ' ') ⟨mark.forward 1, rest⟩ := by
  rw [throughGap, scanGap_blank]
  rfl

theorem throughGap_break (printable : Writing.isPrintable c = true) (ends : isBreak c = true) :
    throughGap single start fuel (gapFuel + 1) gap ⟨mark, c :: rest⟩ =
      throughGap single start fuel gapFuel (gap.addBreak [c]) ⟨mark.nextLine, rest⟩ := by
  rw [throughGap, scanGap_break printable ends]
  rfl

theorem word_gap (gap : ¬Solid c) (wordFuel : Nat) :
    (scanQuotedWord single start wordFuel ⟨mark, c :: rest⟩ >>=
        behindQuotedWord single start fuel) =
      throughGap single start fuel (rest.length + 1) {} ⟨mark, c :: rest⟩ := by
  have other : c ≠ quote single := fun same => gap (same ▸ solid_quote)
  rw [scanQuotedWord_done (by rwa [solidAhead_cons])]
  change behindQuotedWord single start fuel ([], false, _) = _
  rw [behindQuotedWord]
  simp [Cursor.sees, Cursor.at?, other, throughGap]

/-- Within a word, the rest of the scalar is read. -/
def ReadsWord (single : Bool) (text written : List Char) : Prop :=
  ∀ start fuel wordFuel mark rest, 0 < mark.column → written.length ≤ fuel →
    written.length ≤ wordFuel → rest.head? ≠ some (quote single) → ∃ last,
      (scanQuotedWord single start wordFuel ⟨mark, written ++ quote single :: rest⟩ >>=
        behindQuotedWord single start fuel) = .ok (text, ⟨last, rest⟩)

/-- Within a gap, the rest of the scalar is read. Blanks do not count in front of a line break. -/
def ReadsGap (single broken : Bool) (text written : List Char) : Prop :=
  ∀ start fuel gapFuel gap mark rest, gap.broken = broken →
    (if broken then gap.first ≠ ['\n']
      else 0 < mark.column ∧ ∀ c ∈ written.head?, isBreak c = false) →
    written.length < fuel → written.length ≤ gapFuel → rest.head? ≠ some (quote single) → ∃ last,
      throughGap single start fuel gapFuel gap ⟨mark, written ++ quote single :: rest⟩ =
        .ok (gap.text ++ text, ⟨last, rest⟩)

theorem ReadsWord.words (reads : ReadsWord single text written) (start : Mark)
    (within : 0 < mark.column) (enough : written.length < fuel)
    (once : rest.head? ≠ some (quote single)) : ∃ last,
      scanQuotedWords single start fuel ⟨mark, written ++ quote single :: rest⟩ =
        .ok (text, ⟨last, rest⟩) := by
  obtain ⟨fuel, rfl⟩ : ∃ n, fuel = n + 1 := ⟨fuel - 1, by omega⟩
  rw [scanQuotedWords_within within (by simp)]
  exact reads start fuel _ mark rest within (by omega) (by simp) once

theorem ReadsWord.char {spelling : List Char} (reads : ReadsWord single text written)
    (spelled : SpellsChar single c spelling) :
    ReadsWord single (c :: text) (spelling ++ written) := by
  intro start fuel wordFuel mark rest within enough wordEnough once
  have some : 0 < spelling.length := List.length_pos_iff.mpr spelled.filled
  rw [List.length_append] at enough wordEnough
  obtain ⟨wordFuel, rfl⟩ : ∃ n, wordFuel = n + 1 := ⟨wordFuel - 1, by omega⟩
  have further : 0 < (mark.forward spelling.length).column := by
    rw [Mark.column_forward]
    omega
  obtain ⟨last, read⟩ :=
    reads start fuel wordFuel (mark.forward spelling.length) rest further (by omega) (by omega) once
  refine ⟨last, ?_⟩
  rw [List.append_assoc, spelled.read]
  cases word : scanQuotedWord single start wordFuel
      ⟨mark.forward spelling.length, written ++ quote single :: rest⟩ with
  | error fault =>
    rw [word] at read
    exact nomatch read
  | ok ending =>
    rw [word] at read
    change behindQuotedWord single start fuel (c :: ending.1, ending.2) = _
    change behindQuotedWord single start fuel (ending.1, ending.2) = _ at read
    rw [behindQuotedWord_cons, read]
    rfl

theorem readsWord_done : ReadsWord single [] [] := by
  intro start fuel wordFuel mark rest _ _ _ once
  refine ⟨mark.forward 1, ?_⟩
  rw [List.nil_append, scanQuotedWord_quote once]
  change behindQuotedWord single start fuel ([], false, _) = _
  rw [behindQuotedWord]
  simp [Cursor.sees, Cursor.at?, Cursor.skip, Mark.forward]
  rfl

theorem ReadsWord.gapEnd (reads : ReadsWord single text written) (ahead : SolidAhead written) :
    ReadsGap single false text written := by
  intro start fuel gapFuel gap mark rest broken place enough _ once
  have solid : SolidAhead (written ++ quote single :: rest) :=
    ahead.append (solidAhead_cons.mpr solid_quote)
  obtain ⟨last, read⟩ := reads.words start place.1 enough once
  refine ⟨last, ?_⟩
  rw [throughGap, scanGap_done gapFuel solid]
  simp only [bind, Except.bind, read]
  rfl

theorem ReadsWord.indent (reads : ReadsWord single text written) (ahead : SolidAhead written)
    (count : Nat) : ReadsGap single true text (blanks (count + 1) ++ written) := by
  intro start fuel gapFuel gap mark rest broken _ enough gapEnough once
  have solid : SolidAhead (written ++ quote single :: rest) :=
    ahead.append (solidAhead_cons.mpr solid_quote)
  simp only [List.length_append, blanks, List.length_replicate] at enough gapEnough
  have within : 0 < (mark.forward (count + 1)).column := Nat.succ_pos _
  have shorter : written.length < fuel := by omega
  obtain ⟨last, read⟩ := reads.words start within shorter once
  refine ⟨last, ?_⟩
  rw [throughGap, List.append_assoc, scanGap_blanks (count + 1) (by omega) solid, if_pos broken]
  simp only [bind, Except.bind, read]
  rfl

section Blanks

variable (reads : ReadsGap single false text written)
  (apart : ∀ c ∈ written.head?, isBreak c = false)

include reads apart

theorem ReadsGap.blank : ReadsGap single false (' ' :: text) (' ' :: written) := by
  intro start fuel gapFuel gap mark rest broken place enough gapEnough once
  rw [List.length_cons] at enough gapEnough
  obtain ⟨gapFuel, rfl⟩ : ∃ n, gapFuel = n + 1 := ⟨gapFuel - 1, by omega⟩
  obtain ⟨last, read⟩ := reads start fuel gapFuel (gap.addBlank ' ') (mark.forward 1) rest
    (by simp [Gap.addBlank, broken]) ⟨Nat.succ_pos _, apart⟩ (by omega) (by omega) once
  refine ⟨last, ?_⟩
  rw [List.cons_append, throughGap_blank, read]
  simp [Gap.text, Gap.addBlank, broken]

theorem ReadsGap.blankWord : ReadsWord single (' ' :: text) (' ' :: written) := by
  intro start fuel wordFuel mark rest within enough _ once
  rw [List.cons_append, word_gap (by decide), throughGap_blank]
  exact reads start fuel _ _ (mark.forward 1) rest rfl ⟨Nat.succ_pos _, apart⟩ enough (by simp) once

end Blanks

section Folds

variable (reads : ReadsGap single true text written) (printable : Writing.isPrintable c = true)
  (ends : isBreak c = true) (other : c ≠ '\n')

include reads printable ends

theorem ReadsGap.fold : ReadsGap single true (c :: text) (c :: written) := by
  intro start fuel gapFuel gap mark rest broken counted enough gapEnough once
  rw [List.length_cons] at enough gapEnough
  obtain ⟨gapFuel, rfl⟩ : ∃ n, gapFuel = n + 1 := ⟨gapFuel - 1, by omega⟩
  have same : gap.addBreak [c] = { gap with others := gap.others ++ [c] } := by
    rw [Gap.addBreak, if_pos broken]
  obtain ⟨last, read⟩ := reads start fuel gapFuel { gap with others := gap.others ++ [c] }
    mark.nextLine rest broken counted (by omega) (by omega) once
  have first : gap.first ≠ ['\n'] := counted
  refine ⟨last, ?_⟩
  rw [List.cons_append, throughGap_break printable ends, same, read]
  simp [Gap.text, broken, first]

include other

theorem ReadsGap.foldWord : ReadsWord single (c :: text) (c :: written) := by
  intro start fuel wordFuel mark rest within enough _ once
  have gap : ¬Solid c := fun solid => by simp [solid_iff.mp solid] at ends
  have counted : [c] ≠ ['\n'] := fun same => other (List.cons.inj same).1
  obtain ⟨last, read⟩ := reads start fuel (written ++ quote single :: rest).length
    { broken := true, first := [c] } mark.nextLine rest rfl counted enough (by simp) once
  refine ⟨last, ?_⟩
  rw [List.cons_append, word_gap gap, throughGap_break printable ends]
  refine read.trans ?_
  simp [Gap.text, other]

end Folds

/-- What stands between quotes for a text; `broken` tells that a line has just started. -/
inductive Quoted (single : Bool) : (broken : Bool) → (text written : List Char) → Prop where
  | done : Quoted single false [] []
  | char {c : Char} {text spelling written : List Char} (spelled : SpellsChar single c spelling)
    (more : Quoted single false text written) :
    Quoted single false (c :: text) (spelling ++ written)
  | blank {text written : List Char} (more : Quoted single false text written)
    (apart : ∀ c ∈ written.head?, isBreak c = false) :
    Quoted single false (' ' :: text) (' ' :: written)
  | fold {c : Char} {broken : Bool} {text written : List Char}
    (printable : Writing.isPrintable c = true) (ends : isBreak c = true) (other : c ≠ '\n')
    (more : Quoted single true text written) : Quoted single broken (c :: text) (c :: written)
  | indent {text written : List Char} (count : Nat) (more : Quoted single false text written)
    (ahead : SolidAhead written) : Quoted single true text (blanks (count + 1) ++ written)

theorem Quoted.reads (quoted : Quoted single broken text written) :
    (broken = false → ReadsWord single text written) ∧ ReadsGap single broken text written := by
  induction quoted with
  | done => exact ⟨fun _ => readsWord_done, readsWord_done.gapEnd solidAhead_nil⟩
  | char spelled more ih =>
    have reads := (ih.1 rfl).char spelled
    exact ⟨fun _ => reads, reads.gapEnd (spelled.ahead.extend spelled.filled _)⟩
  | blank more apart ih => exact ⟨fun _ => ih.2.blankWord apart, ih.2.blank apart⟩
  | @fold c broken text written printable ends other more ih =>
    refine ⟨fun _ => ih.2.foldWord printable ends other, ?_⟩
    cases broken with
    | false =>
      intro start fuel gapFuel gap mark rest _ place
      exact absurd (place.2 c rfl) (by simp [ends])
    | true => exact ih.2.fold printable ends
  | indent count more ahead ih => exact ⟨nofun, (ih.1 rfl).indent ahead count⟩

/-- A quoted scalar is read up to the quote at its end. -/
theorem scanQuoted_quoted (quoted : Quoted single false text written)
    (once : rest.head? ≠ some (quote single)) : ∃ last,
      scanQuoted single ⟨mark, quote single :: (written ++ quote single :: rest)⟩ =
        .ok (text, ⟨last, rest⟩) := by
  have within : 0 < (mark.forward 1).column := Nat.succ_pos _
  exact (quoted.reads.1 rfl).words mark within (by simp; omega) once

end Gaps

section Single

variable {c : Char} {text : List Char}

theorem spellsChar_single (solid : Solid c) :
    SpellsChar true c (if c = '\'' then ['\'', '\''] else [c]) := by
  by_cases same : c = '\''
  · rw [if_pos same, same]
    exact ⟨solidAhead_cons.mpr (by decide), List.cons_ne_nil _ _, fun _ _ _ _ => rfl⟩
  · rw [if_neg same]
    refine ⟨solidAhead_cons.mpr solid, List.cons_ne_nil _ _, fun start fuel mark rest => ?_⟩
    rw [List.singleton_append, scanQuotedWord]
    simp only [Cursor.at?, List.getElem?_cons_zero]
    rw [if_neg (by rw [solid]; decide), if_neg (by simp [same]), if_neg (by simp [same])]
    rfl

theorem head_singleBody (indent : Nat) (apart : ∀ d ∈ text.head?, isBreak d = false) :
    ∀ d ∈ (singleBody indent false text).head?, isBreak d = false := by
  cases text with
  | nil => simp [singleBody]
  | cons d text =>
    have next : isBreak d = false := apart d rfl
    rw [singleBody, next]
    by_cases same : d = '\'' <;> simp [same, next]
    decide

theorem Quoted.ofSingle {indent : Nat} {broken : Bool} (inside : 0 < indent)
    (printable : ∀ c ∈ text, Writing.isPrintable c = true) (noFeed : '\n' ∉ text)
    (ahead : Writing.hasPair (· == ' ') isBreak text = false)
    (behind : Writing.hasPair isBreak (· == ' ') text = false)
    (noBlank : broken = true → text.head? ≠ some ' ') :
    Quoted true broken text (singleBody indent broken text) := by
  obtain ⟨count, rfl⟩ : ∃ n, indent = n + 1 := ⟨indent - 1, by omega⟩
  induction text generalizing broken with
  | nil =>
    cases broken with
    | false => exact .done
    | true =>
      simpa [singleBody] using Quoted.indent count (.done : Quoted true _ _ _) solidAhead_nil
  | cons c text ih =>
    obtain ⟨blankApart, ahead⟩ := Writing.hasPair_cons.mp ahead
    obtain ⟨breakApart, behind⟩ := Writing.hasPair_cons.mp behind
    have here : Writing.isPrintable c = true := printable c List.mem_cons_self
    have more (broken : Bool) (noBlank : broken = true → text.head? ≠ some ' ') :
        Quoted true broken text (singleBody (count + 1) broken text) :=
      ih (fun d member => printable d (List.mem_cons_of_mem c member))
        (List.not_mem_of_not_mem_cons noFeed) ahead behind noBlank
    rw [singleBody]
    by_cases ends : isBreak c = true
    · -- No blank follows, which would be lost in the indentation.
      have noSpace (_ : true = true) : text.head? ≠ some ' ' := fun first =>
        absurd (breakApart ends ' ' first) (by decide)
      rw [if_pos ends]
      exact .fold here ends (Ne.symm (List.ne_of_not_mem_cons noFeed)) (more true noSpace)
    rw [if_neg ends]
    have rest := more false fun start => absurd start Bool.false_ne_true
    by_cases space : c = ' '
    · subst space
      have apart := head_singleBody (count + 1) (blankApart rfl)
      have within : broken = false := Bool.eq_false_iff.mpr fun start => noBlank start rfl
      subst within
      exact .blank rest apart
    · have solid : Solid c := solid_iff.mpr
        ⟨Bool.eq_false_iff.mpr fun blank => space ((isBlank_printable here).mp blank),
          Bool.eq_false_iff.mpr ends⟩
      have spelled := spellsChar_single solid
      have word := Quoted.char spelled rest
      cases broken with
      | false => exact word
      | true => exact .indent count word (spelled.ahead.extend spelled.filled _)

end Single

section Double

variable {c letter : Char} {n width : Nat} {more rest : List Char} {start mark : Mark}

theorem length_hexadecimal (some : 0 < width) (fits : n < twoTo (4 * width)) :
    (Pen.hexadecimal width n).length = width := by
  have short := Text.length_hexDigitsOf some fits
  simp [Pen.hexadecimal, short]

theorem hexadecimal_all : ∀ c ∈ Pen.hexadecimal width n, Text.isHexDigit c = true := by
  intro c member
  have upper : ∀ code ≤ 102, Text.isHexDigit (Char.ofNat code) = true →
      Text.isHexDigit (Char.ofNat code).toUpper = true := by decide
  rcases List.mem_append.mp member with zero | raised
  · rw [List.eq_of_mem_replicate zero]
    decide
  · obtain ⟨d, digit, rfl⟩ := List.mem_map.mp raised
    have hex := Text.hexDigitsOf_all n d digit
    have found := upper d.toNat (Text.toNat_of_isHexDigit hex).2
    rw [Char.ofNat_toNat] at found
    exact found hex

theorem hexNumeral?_hexadecimal : Text.hexNumeral? (Pen.hexadecimal width n) = some n := by
  have filled : (Text.hexDigitsOf n).map Char.toUpper ≠ [] := by
    simpa using Text.hexDigitsOf_ne_nil n
  rw [Pen.hexadecimal, Text.hexNumeral?_zeros filled,
    Text.hexNumeral?_toUpper (Text.hexDigitsOf_all n), Text.hexNumeral?_hexDigitsOf]

theorem escaped?_escapeLetter (escape : Pen.escapeLetter? c = some letter) :
    escaped? letter = some c ∧ isBreak letter = false := by
  have known : c = Char.ofNat c.toNat := (Char.ofNat_toNat c).symm
  unfold Pen.escapeLetter? at escape
  split at escape
  case h_16 => exact nomatch escape
  all_goals
    rename_i same
    rw [same] at known
    subst known
    cases escape
    exact ⟨by decide, by decide⟩

theorem scanEscaped_letter (escape : escaped? letter = some c) :
    scanEscaped start ⟨mark, '\\' :: letter :: rest⟩ = .ok (c, ⟨mark.forward 2, rest⟩) := by
  rw [scanEscaped]
  simp only [Cursor.at?, List.getElem?_cons_succ, List.getElem?_cons_zero, Option.getD_some]
  rw [escape]
  rfl

theorem scanEscaped_number (other : escaped? letter = none)
    (digits : escapeDigits? letter = some width) (some : 0 < width)
    (fits : c.toNat < twoTo (4 * width)) :
    scanEscaped start ⟨mark, '\\' :: letter :: (Pen.hexadecimal width c.toNat ++ rest)⟩ =
      .ok (c, ⟨mark.forward (width + 2), rest⟩) := by
  have length := length_hexadecimal some fits
  have taken : (Pen.hexadecimal width c.toNat ++ rest).take width =
      Pen.hexadecimal width c.toNat := by
    rw [List.take_append_of_le_length (by omega), List.take_of_length_le (by omega)]
  have all : (Pen.hexadecimal width c.toNat).all Text.isHexDigit = true :=
    List.all_eq_true.mpr hexadecimal_all
  have valid : ((0xD800 ≤ c.toNat && c.toNat ≤ 0xDFFF) || 0x10FFFF < c.toNat) = false := by
    have range : c.toNat < 0xD800 ∨ 0xDFFF < c.toNat ∧ c.toNat < 0x110000 := c.valid
    simp
    omega
  have passed : Cursor.skip width ⟨mark.forward 2, Pen.hexadecimal width c.toNat ++ rest⟩ =
      ⟨mark.forward (width + 2), rest⟩ := by
    have skipped : Cursor.skip _ ⟨mark.forward 2, Pen.hexadecimal width c.toNat ++ rest⟩ = _ :=
      Cursor.skip_append
    rwa [length, Mark.forward_forward, Nat.add_comm 2] at skipped
  rw [scanEscaped]
  simp only [Cursor.at?, List.getElem?_cons_succ, List.getElem?_cons_zero, Option.getD_some]
  rw [other, digits]
  change scanNumbered width start ⟨mark.forward 2, Pen.hexadecimal width c.toNat ++ rest⟩ = _
  rw [scanNumbered]
  simp only [taken, length, all, hexNumeral?_hexadecimal, Option.getD_some, valid]
  simp only [Nat.lt_irrefl, decide_false, Bool.not_true, Bool.or_false, Bool.false_eq_true,
    if_false, Char.ofNat_toNat, passed]

theorem spellsChar_escape (noBreak : isBreak letter = false)
    (escape : ∀ start mark rest, scanEscaped start ⟨mark, '\\' :: letter :: (more ++ rest)⟩ =
      .ok (c, ⟨mark.forward (more.length + 2), rest⟩)) :
    SpellsChar false c ('\\' :: letter :: more) := by
  refine ⟨solidAhead_cons.mpr (by decide), List.cons_ne_nil _ _, fun start fuel mark rest => ?_⟩
  rw [List.cons_append, List.cons_append, scanQuotedWord]
  simp only [Cursor.at?, List.getElem?_cons_zero, List.getElem?_cons_succ, Option.any_some, noBreak]
  rw [escape]
  rfl

theorem spellsChar_number (noBreak : isBreak letter = false) (other : escaped? letter = none)
    (digits : escapeDigits? letter = some width) (some : 0 < width) (fits : c.toNat < twoTo (4 * width)) :
    SpellsChar false c ('\\' :: letter :: Pen.hexadecimal width c.toNat) := by
  refine spellsChar_escape noBreak fun start mark rest => ?_
  rw [length_hexadecimal some fits]
  exact scanEscaped_number other digits some fits

theorem spellsChar_double (other : c ≠ ' ') : SpellsChar false c (Pen.doubleChar c) := by
  rw [Pen.doubleChar]
  split
  next plain =>
    simp only [Bool.and_eq_true, Bool.not_eq_true', bne_iff_ne] at plain
    obtain ⟨⟨⟨printable, noBreak⟩, noQuote⟩, noEscape⟩ := plain
    have solid : Solid c := solid_iff.mpr
      ⟨Bool.eq_false_iff.mpr fun blank => other ((isBlank_printable printable).mp blank), noBreak⟩
    refine ⟨solidAhead_cons.mpr solid, List.cons_ne_nil _ _, fun start fuel mark rest => ?_⟩
    rw [List.singleton_append, scanQuotedWord]
    simp only [Cursor.at?, List.getElem?_cons_zero]
    rw [if_neg (by rw [solid]; decide), if_neg (by simp), if_neg (by simp [noQuote]),
      if_neg (by simp [noEscape])]
    rfl
  next =>
    split
    next letter escape =>
      obtain ⟨read, noBreak⟩ := escaped?_escapeLetter escape
      exact spellsChar_escape noBreak fun start mark rest => scanEscaped_letter read
    next =>
      have range : c.toNat < 0xD800 ∨ 0xDFFF < c.toNat ∧ c.toNat < 0x110000 := c.valid
      have two : twoTo (4 * 2) = 0x100 := by decide
      have four : twoTo (4 * 4) = 0x10000 := by decide
      have eight : twoTo (4 * 8) = 0x100000000 := by decide
      dsimp only
      split
      · exact spellsChar_number (by decide) (by decide) (by decide) (by decide) (by omega)
      split
      · exact spellsChar_number (by decide) (by decide) (by decide) (by decide) (by omega)
      · exact spellsChar_number (by decide) (by decide) (by decide) (by decide) (by omega)

theorem doubleChar_head (c : Char) :
    ∃ first more, Pen.doubleChar c = first :: more ∧ isBreak first = false := by
  by_cases space : c = ' '
  · subst space
    exact ⟨' ', [], rfl, rfl⟩
  · obtain ⟨ahead, filled, _⟩ := spellsChar_double space
    obtain ⟨first, more, shape⟩ := List.exists_cons_of_ne_nil filled
    rw [shape] at ahead
    exact ⟨first, more, shape, (solid_iff.mp (solidAhead_cons.mp ahead)).2⟩

theorem Quoted.ofDouble (text : List Char) :
    Quoted false false text (text.flatMap Pen.doubleChar) := by
  induction text with
  | nil => exact .done
  | cons c text ih =>
    rw [List.flatMap_cons]
    by_cases space : c = ' '
    · subst space
      refine .blank ih ?_
      cases text with
      | nil => exact fun _ member => nomatch member
      | cons d text =>
        obtain ⟨first, more, shape, noBreak⟩ := doubleChar_head d
        simp [shape, noBreak]
    · exact .char (spellsChar_double space) ih

end Double

end SchemaCheck.Yaml
