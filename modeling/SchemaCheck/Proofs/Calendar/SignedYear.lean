import SchemaCheck.Calendar.Text
import SchemaCheck.Proofs.Calendar.Timestamp

/-!
Timestamps whose year has a sign. Only the layouts without an offset read such a year, and these
leave the letter `Z` behind: what they take from a text are digits, signs, blanks, their own marks
and the names of months (`Item.leaves_scan`). So none of the readers takes the text of an instant
outside the years 0 to 9999 (`ofText?_signed`).
-/

namespace SchemaCheck.Calendar

open Text

section Leaves

variable {text : List Char}

/-- The text behind what has been read still holds the letter. -/
def Leaves {α : Type} (scanned : Option (α × List Char)) : Prop :=
  ∀ found ∈ scanned, 'Z' ∈ found.2

theorem Leaves.map {α β : Type} {scanned : Option (α × List Char)} (leaves : Leaves scanned)
    (f : α × List Char → β × List Char) (same : ∀ found, (f found).2 = found.2) :
    Leaves (scanned.map f) := by
  intro made found
  obtain ⟨before, here, rfl⟩ := Option.map_eq_some_iff.mp found
  rw [same]
  exact leaves before here

theorem leaves_drop {count : Nat} (taken : 'Z' ∉ text.take count) (member : 'Z' ∈ text) :
    'Z' ∈ text.drop count := by
  rw [← List.take_append_drop count text] at member
  exact (List.mem_append.mp member).resolve_left taken

theorem leaves_blanks (member : 'Z' ∈ text) : 'Z' ∈ skipBlanks text := by
  rw [← List.takeWhile_append_dropWhile (p := isBlank) (l := text)] at member
  refine (List.mem_append.mp member).resolve_left fun blank => ?_
  exact absurd (List.mem_takeWhile_imp blank) (by decide)

theorem leaves_mark {c : Char} {rest : List Char} (other : c ≠ 'Z')
    (skipped : skip? c text = some rest) (member : 'Z' ∈ text) : 'Z' ∈ rest := by
  cases text with
  | nil => cases skipped
  | cons d text =>
    rw [skip?] at skipped
    split at skipped
    next same =>
      cases skipped
      refine (List.mem_cons.mp member).resolve_left fun first => ?_
      exact other (same.trans first.symm)
    · cases skipped

theorem leaves_number (least most : Nat) (member : 'Z' ∈ text) :
    Leaves (scanNumber least most text) := by
  intro found scanned
  simp only [scanNumber] at scanned
  split at scanned
  · cases scanned
  · cases scanned
    refine leaves_drop ?_ member
    have front : leadingDigits most text <+: text :=
      (List.takeWhile_prefix _).trans (List.take_prefix most text)
    rw [← List.prefix_iff_eq_take.mp front]
    intro digit
    exact absurd (List.mem_takeWhile_imp digit) (by decide)

theorem leaves_pair (member : 'Z' ∈ text) : Leaves (scanPair text) :=
  leaves_number 1 2 (leaves_blanks member)

theorem leaves_year (member : 'Z' ∈ text) : Leaves (scanYear text) := by
  unfold scanYear
  split
  · exact (leaves_number 1 _ ((List.mem_cons.mp member).resolve_left (by decide))).map _
      fun _ => rfl
  · exact (leaves_number 1 _ ((List.mem_cons.mp member).resolve_left (by decide))).map _
      fun _ => rfl
  · exact (leaves_number 1 4 member).map _ fun _ => rfl

theorem leaves_word {words : List String}
    (without : ∀ word ∈ words, 'z' ∉ word.toList.map Char.toLower) (member : 'Z' ∈ text) :
    Leaves (scanWord words text) := by
  intro found scanned
  simp only [scanWord] at scanned
  split at scanned
  next i found =>
    cases scanned
    obtain ⟨inside, starts, _⟩ := List.findIdx?_eq_some_iff_getElem.mp found
    rw [List.getD_eq_getElem?_getD, List.getElem?_eq_getElem inside, Option.getD_some]
    refine leaves_drop (fun taken => ?_) member
    -- The word is compared in lower case, so it would hold the small letter.
    have lower : 'z' ∈ (text.take words[i].length).map Char.toLower :=
      List.mem_map.mpr ⟨'Z', taken, by decide⟩
    rw [← eq_of_beq starts] at lower
    exact without _ (List.getElem_mem inside) lower
  · cases scanned

theorem monthNames_without :
    ∀ word ∈ monthNames, 'z' ∉ word.toList.map Char.toLower := by decide

theorem Item.leaves_scan {item : Item} (other : item ≠ .mark 'Z') (parts : Parts)
    (member : 'Z' ∈ text) : Leaves (item.scan parts text) := by
  cases item with
  | year => exact (leaves_year (leaves_blanks member)).map _ fun _ => rfl
  | monthName => exact (leaves_word monthNames_without member).map _ fun _ => rfl
  | month | day | hour | minute | second => exact (leaves_pair member).map _ fun _ => rfl
  | mark c =>
    intro found scanned
    obtain ⟨rest, skipped, rfl⟩ := Option.map_eq_some_iff.mp scanned
    exact leaves_mark (fun same => other (congrArg Item.mark same)) skipped member
  | blanks =>
    intro found scanned
    cases scanned
    exact leaves_blanks member

theorem readParts_letter {items : List Item} (other : ∀ item ∈ items, item ≠ .mark 'Z')
    (parts : Parts) (member : 'Z' ∈ text) : readParts parts items text = none := by
  induction items generalizing parts text with
  | nil =>
    cases text with
    | nil => cases member
    | cons c text => rfl
  | cons item items ih =>
    refine Option.bind_eq_none_iff.mpr fun ⟨parts', rest⟩ scanned => ?_
    have left := item.leaves_scan (other item List.mem_cons_self) parts member _ scanned
    exact ih (fun item inside => other item (List.mem_cons_of_mem _ inside)) parts' left

end Leaves

section Readers

variable {text : List Char} {sign : Char}

theorem ofLayouts?_letter (member : 'Z' ∈ text) : ofLayouts? text = none := by
  have timed : ∀ layout ∈ timedLayouts, ∀ item ∈ layout, item ≠ .mark 'Z' := by
    simp [timedLayouts, hyphenDate, colonTime]
  have dated : ∀ layout ∈ dateLayouts, ∀ item ∈ layout, item ≠ .mark 'Z' := by
    simp [dateLayouts, hyphenDate]
  have noTime : timedLayouts.findSome?
      (fun layout => (readParts {} layout text).bind (·.instant? 0)) = none := by
    refine List.findSome?_eq_none_iff.mpr fun layout inside => ?_
    rw [readParts_letter (timed layout inside) {} member, Option.bind_none]
  have noDate : dateLayouts.findSome?
      (fun layout => (readParts {} layout text).bind (·.date?)) = none := by
    refine List.findSome?_eq_none_iff.mpr fun layout inside => ?_
    rw [readParts_letter (dated layout inside) {} member, Option.bind_none]
  rw [ofLayouts?, noTime, noDate]
  rfl

theorem ofUnixText?_letter (isSign : sign = '-' ∨ sign = '+') (member : 'Z' ∈ text) :
    ofUnixText? (sign :: text) = none := by
  have number : integer? (sign :: text) = none := by
    rcases isSign with rfl | rfl
    · rw [integer?, natural?_none member (by decide)]
      rfl
    · rw [integer?, unsigned?, natural?_none member (by decide)]
      · rfl
      · exact fun _ same => absurd (List.cons.inj same).1 (by decide)
  rw [ofUnixText?, number]
  rfl

/-- A letter's date line starts with a day of the week or a digit. -/
theorem ofMailDate?_sign (isSign : sign = '-' ∨ sign = '+') (text : List Char) :
    ofMailDate? (sign :: text) = none := by
  have solid : skipBlanks (sign :: text) = sign :: text := by
    rcases isSign with rfl | rfl <;> rfl
  have noDay : scanWeekday (sign :: text) = some (none, sign :: text) := by
    rcases isSign with rfl | rfl <;> rfl
  have noDate := scanNumber_none Nat.one_pos 2 (noDigitAhead_sign isSign text)
  rw [ofMailDate?, solid, noDay, Option.bind_eq_bind, Option.bind_some]
  show Option.bind (scanNumber 1 2 (skipBlanks (sign :: text))) _ = none
  rw [solid, noDate, Option.bind_none]

/-- Outside the years 0 to 9999 the text of an instant is not read. -/
theorem ofText?_signed {i : Instant} (other : ¬i.date.FourDigitYear) :
    ofText? i.text = none := by
  obtain ⟨sign, rest, text, isSign⟩ := Instant.text_signed other
  have letter : 'Z' ∈ i.text := List.mem_append_right _ (List.mem_singleton.mpr rfl)
  have behind : 'Z' ∈ rest := by
    rw [text] at letter
    refine (List.mem_cons.mp letter).resolve_left ?_
    rcases isSign with rfl | rfl <;> decide
  rw [ofText?, ofTimestamp?_signed other, ofLayouts?_letter letter, text,
    ofMailDate?_sign isSign, ofUnixText?_letter isSign behind]
  rfl

end Readers

end SchemaCheck.Calendar
