import SchemaCheck.Calendar.Text
import SchemaCheck.Proofs.Calendar.Timestamp

/-!
Where leap seconds lie. A clock has a leap second at the end of a minute only, and offsets are whole
minutes; so whichever way an instant is written, a leap second ends its minute in universal time
(`regular_text`).
-/

namespace SchemaCheck.Calendar

open Text

/-- If an instant has been read, its leap second ends a minute. -/
def GivesRegular (read : Option Instant) : Prop := ∀ i ∈ read, i.clock.Regular

theorem GivesRegular.bind {α : Type} {scanned : Option α} {further : α → Option Instant}
    (each : ∀ a ∈ scanned, GivesRegular (further a)) : GivesRegular (scanned >>= further) := by
  intro i read
  obtain ⟨a, found, read⟩ := Option.bind_eq_some_iff.mp read
  exact each a found i read

theorem GivesRegular.orElse {first second : Option Instant} (one : GivesRegular first)
    (other : GivesRegular second) : GivesRegular (first <|> second) := by
  cases first with
  | some i => exact one
  | none => exact other

theorem regular_none : GivesRegular none := fun _ read => (nomatch read)

theorem Clock.regular_of_short {clock : Clock} (short : clock.nanosecond < secondLength) :
    clock.Regular := by
  intro leap
  have large : secondLength ≤ clock.nanosecond := of_decide_eq_true leap
  omega

theorem Clock.ofParts?_regular {hour minute second nanosecond : Nat} {clock : Clock}
    (made : ofParts? hour minute second nanosecond = some clock) : clock.Regular := by
  unfold ofParts? at made
  split at made
  next bounds =>
    split at made
    · rw [← Option.some.inj made]
      intro _
      show (hour * 3600 + minute * 60 + 59) % 60 = 59
      omega
    · split at made
      · rw [← Option.some.inj made]
        exact regular_of_short bounds.2.2.2
      · cases made
  · cases made

theorem Instant.ofUnix?_clock {seconds : Int} {nanosecond : Nat} {i : Instant}
    (made : ofUnix? seconds nanosecond = some i) :
    (i.clock.second : Int) = seconds % dayLength ∧ i.clock.nanosecond = nanosecond := by
  obtain ⟨date, _, made⟩ := Option.bind_eq_some_iff.mp made
  split at made
  · rw [← Option.some.inj made]
    refine ⟨?_, rfl⟩
    unfold dayLength
    dsimp only
    omega
  · cases made

section Offsets

variable {rest : List Char} {offset : Int}

/-- Whole minutes do not move a leap second away from the end of its minute. -/
theorem regular_atOffset {date : Date} {clock : Clock} (regular : clock.Regular)
    (minutes : 60 ∣ offset) : GivesRegular (Instant.atOffset? date clock offset) := by
  intro i made
  obtain ⟨second, nanosecond⟩ := Instant.ofUnix?_clock made
  intro leap
  -- A day has a whole number of minutes, as the offset has.
  have last : clock.second % 60 = 59 := by
    refine regular ?_
    rwa [Clock.isLeapSecond, nanosecond] at leap
  unfold Instant.unixSeconds dayLength at second
  dsimp only at second
  omega

theorem regular_parts (parts : Parts) (minutes : 60 ∣ offset) :
    GivesRegular (parts.instant? offset) :=
  .bind fun _ _ => .bind fun _ made => regular_atOffset (Clock.ofParts?_regular made) minutes

theorem scanColonOffset_minutes {text : List Char}
    (scanned : scanColonOffset text = some (offset, rest)) : 60 ∣ offset := by
  unfold scanColonOffset at scanned
  split at scanned
  · cases scanned
    exact Int.dvd_zero 60
  · cases scanned
    exact Int.dvd_zero 60
  · simp only [Option.bind_eq_bind, Option.bind_eq_some_iff] at scanned
    obtain ⟨⟨sign, _⟩, _, ⟨hours, _⟩, _, _, _, ⟨minutes, _⟩, _, scanned⟩ := scanned
    split at scanned
    · cases scanned
      exact Dvd.dvd.mul_left (by omega) sign
    · cases scanned

theorem scanZone_minutes {text : List Char} (scanned : scanZone text = some (offset, rest)) :
    60 ∣ offset := by
  simp only [scanZone] at scanned
  split at scanned
  · simp only [Option.bind_eq_bind, Option.bind_eq_some_iff] at scanned
    obtain ⟨⟨sign, _⟩, _, ⟨hours, _⟩, _, ⟨minutes, _⟩, _, scanned⟩ := scanned
    split at scanned
    · cases scanned
      exact Dvd.dvd.mul_left (by omega) sign
    · cases scanned
  · obtain ⟨hours, _, scanned⟩ := Option.map_eq_some_iff.mp scanned
    cases scanned
    omega

end Offsets

section Readers

variable (text : List Char)

theorem regular_timestamp : GivesRegular (ofTimestamp? text) := by
  unfold ofTimestamp?
  iterate 12 refine GivesRegular.bind fun _ _ => ?_
  refine GivesRegular.bind fun ⟨offset, rest⟩ zone => ?_
  dsimp only
  split
  · exact regular_parts _ (scanColonOffset_minutes zone)
  · exact regular_none

theorem regular_mailDate : GivesRegular (ofMailDate? text) := by
  unfold ofMailDate?
  iterate 12 refine GivesRegular.bind fun _ _ => ?_
  refine GivesRegular.bind fun ⟨offset, rest⟩ zone => ?_
  refine GivesRegular.bind fun date _ => ?_
  split
  · exact regular_parts _ (scanZone_minutes zone)
  · exact regular_none

theorem regular_layouts : GivesRegular (ofLayouts? text) := by
  refine GivesRegular.orElse ?_ ?_
  · intro i timed
    obtain ⟨layout, _, timed⟩ := List.exists_of_findSome?_eq_some timed
    exact GivesRegular.bind (fun parts _ => regular_parts parts (Int.dvd_zero 60)) i timed
  · intro i dated
    obtain ⟨date, _, dated⟩ := Option.map_eq_some_iff.mp dated
    rw [← dated]
    exact Clock.regular_of_short (show 0 < secondLength by decide)

theorem regular_unixSeconds (seconds : Int) : GivesRegular (ofUnixSeconds? seconds) := by
  intro i made
  refine Clock.regular_of_short ?_
  rw [(Instant.ofUnix?_clock made).2]
  decide

theorem regular_text : GivesRegular (ofText? text) :=
  .orElse (regular_timestamp text) (.orElse (regular_mailDate text)
    (.orElse (regular_layouts text) (.bind fun seconds _ => regular_unixSeconds seconds)))

end Readers

end SchemaCheck.Calendar
