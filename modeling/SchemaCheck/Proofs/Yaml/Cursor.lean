import Mathlib.Data.List.Basic
import SchemaCheck.Proofs.Yaml.Layout
import SchemaCheck.Yaml.Token.Scalar

/-!
Cursors on printed text. Such a text holds no tabs, and of the characters that end a line only
those that count as they are (`lineBreak_printable`).
-/

namespace SchemaCheck.Yaml

namespace Mark

def forward (count : Nat) (mark : Mark) : Mark :=
  { mark with index := mark.index + count, column := mark.column + count }

def nextLine (mark : Mark) : Mark :=
  { index := mark.index + 1, line := mark.line + 1, column := 0 }

variable {mark : Mark} {m n : Nat}

@[simp]
theorem forward_zero : mark.forward 0 = mark := rfl

@[simp]
theorem forward_forward : (mark.forward m).forward n = mark.forward (m + n) := by
  simp [forward, Nat.add_assoc]

@[simp]
theorem column_forward : (mark.forward n).column = mark.column + n := rfl

@[simp]
theorem column_nextLine : mark.nextLine.column = 0 := rfl

end Mark

/-- The character is neither a blank nor the end of a line. -/
def Solid (c : Char) : Prop := (isBlank c || isBreak c) = false

instance (c : Char) : Decidable (Solid c) := inferInstanceAs (Decidable (_ = _))

def SolidAhead (rest : List Char) : Prop := ∀ c ∈ rest.head?, Solid c

section Classes

variable {c : Char}

theorem solid_iff : Solid c ↔ isBlank c = false ∧ isBreak c = false := Bool.or_eq_false_iff

theorem solidAhead_nil : SolidAhead [] := fun _ member => nomatch member

theorem solidAhead_cons {rest : List Char} : SolidAhead (c :: rest) ↔ Solid c := by
  simp [SolidAhead]

theorem SolidAhead.extend {written : List Char} (ahead : SolidAhead written)
    (filled : written ≠ []) (rest : List Char) : SolidAhead (written ++ rest) := by
  obtain ⟨c, more, rfl⟩ := List.exists_cons_of_ne_nil filled
  exact ahead

theorem SolidAhead.append {written rest : List Char} (ahead : SolidAhead written)
    (behind : SolidAhead rest) : SolidAhead (written ++ rest) := by
  cases written with
  | nil => exact behind
  | cons c written => exact ahead

theorem isBreak_printable (printable : Writing.isPrintable c = true) (ends : isBreak c = true) :
    c = '\n' ∨ c = Char.ofNat 0x2028 ∨ c = Char.ofNat 0x2029 := by
  have noReturn : c ≠ '\r' := fun same => absurd printable (by rw [same]; decide)
  have noNext : c ≠ Char.ofNat 0x85 := fun same => absurd printable (by rw [same]; decide)
  simpa [isBreak, noReturn, noNext, or_assoc] using ends

theorem noTab_of_printable (printable : Writing.isPrintable c = true) : c ≠ '\t' := fun same =>
  absurd printable (by rw [same]; decide)

theorem isBlank_printable (printable : Writing.isPrintable c = true) :
    isBlank c = true ↔ c = ' ' := by
  simp [isBlank, noTab_of_printable printable]

end Classes

namespace Cursor

variable {mark : Mark} {c : Char} {text rest : List Char}

theorem seesBlank_cons : seesBlank ⟨mark, c :: rest⟩ = isBlank c := rfl

theorem seesBreak_cons : seesBreak ⟨mark, c :: rest⟩ = isBreak c := rfl

theorem skip_append : skip text.length ⟨mark, text ++ rest⟩ = ⟨mark.forward text.length, rest⟩ := by
  simp [skip, Mark.forward]

theorem skip_blanks {count : Nat} :
    skip count ⟨mark, blanks count ++ rest⟩ = ⟨mark.forward count, rest⟩ := by
  have passed : skip (blanks count).length ⟨mark, blanks count ++ rest⟩ = _ := skip_append
  rwa [blanks, List.length_replicate] at passed

theorem skipLine_printable (printable : Writing.isPrintable c = true) (ends : isBreak c = true) :
    skipLine ⟨mark, c :: rest⟩ = ⟨mark.nextLine, rest⟩ := by
  rcases isBreak_printable printable ends with rfl | rfl | rfl <;> rfl

theorem lineBreak_printable (printable : Writing.isPrintable c = true) (ends : isBreak c = true) :
    lineBreak ⟨mark, c :: rest⟩ = [c] := by
  rcases isBreak_printable printable ends with rfl | rfl | rfl <;> rfl

theorem seesAnySeparator_within (within : 0 < mark.column) :
    seesAnySeparator ⟨mark, rest⟩ = false := by
  simp [seesAnySeparator, seesSeparator, Nat.ne_of_gt within]

end Cursor

section Gaps

variable {isBad : Cursor → Bool} {start mark : Mark} {gap : Gap} {rest : List Char}

theorem scanGap_done (fuel : Nat) (ahead : SolidAhead rest) :
    scanGap isBad start fuel gap ⟨mark, rest⟩ = .ok (gap, ⟨mark, rest⟩) := by
  cases fuel with
  | zero => rfl
  | succ fuel =>
    cases rest with
    | nil => rfl
    | cons c rest =>
      obtain ⟨noBlank, noBreak⟩ := solid_iff.mp (solidAhead_cons.mp ahead)
      rw [scanGap]
      simp [Cursor.at?, noBlank, noBreak]

theorem scanGap_blank (fuel : Nat) :
    scanGap isBad start (fuel + 1) gap ⟨mark, ' ' :: rest⟩ =
      scanGap isBad start fuel (gap.addBlank ' ') ⟨mark.forward 1, rest⟩ := by
  rw [scanGap]
  simp [Cursor.at?, isBlank, Cursor.skip, Mark.forward]

/-- Blanks belong to the gap on a line; behind a line break they do not count. -/
theorem scanGap_blanks (count : Nat) {fuel : Nat} (enough : count ≤ fuel)
    (ahead : SolidAhead rest) :
    scanGap isBad start fuel gap ⟨mark, blanks count ++ rest⟩ =
      .ok (if gap.broken then gap else { gap with blanks := gap.blanks ++ blanks count },
        ⟨mark.forward count, rest⟩) := by
  induction count generalizing fuel gap mark with
  | zero =>
    have same :
        (if gap.broken then gap else { gap with blanks := gap.blanks ++ blanks 0 }) = gap := by
      simp [blanks]
    rw [same]
    exact scanGap_done fuel ahead
  | succ count ih =>
    obtain ⟨fuel, rfl⟩ : ∃ n, fuel = n + 1 := ⟨fuel - 1, by omega⟩
    change scanGap isBad start (fuel + 1) gap ⟨mark, ' ' :: (blanks count ++ rest)⟩ = _
    rw [scanGap_blank, ih (by omega)]
    cases broken : gap.broken <;>
      simp [Gap.addBlank, broken, blanks, Nat.add_comm, List.replicate_succ]

theorem scanGap_break {c : Char} (printable : Writing.isPrintable c = true)
    (ends : isBreak c = true) (fuel : Nat) :
    scanGap isBad start (fuel + 1) gap ⟨mark, c :: rest⟩ =
      scanGap isBad start fuel (gap.addBreak [c]) ⟨mark.nextLine, rest⟩ := by
  have noBlank : isBlank c = false := by
    rcases isBreak_printable printable ends with rfl | rfl | rfl <;> decide
  rw [scanGap]
  simp only [Cursor.at?, List.getElem?_cons_zero]
  rw [noBlank, ends, Cursor.lineBreak_printable printable ends,
    Cursor.skipLine_printable printable ends]
  rfl

end Gaps

end SchemaCheck.Yaml
