import SchemaCheck.Proofs.Pattern.Spelling
import SchemaCheck.Proofs.Validation.Format

/-!
The format of date-times. Its pattern has the layouts of ISO 8601, but what it takes for a digit is
any decimal digit of any script (`accepts_iff`). Among the texts of ASCII characters it accepts
those with the digits from 0 to 9 (`ascii_form_iff`).
-/

namespace SchemaCheck

open Json (Value)

namespace DateTimeFormat

open Unicode (CharSet)
open Pattern

/-- A part of a layout: so many digits, or a mark. -/
inductive Part where
  | digits (count : Nat)
  | mark (c : Char)
deriving DecidableEq

/-- Whether a text has a layout, given what counts as a digit. -/
def Fits (digit : Char → Prop) : List Part → List Char → Prop
  | [], text => text = []
  | .digits count :: parts, text =>
    ∃ front rest, text = front ++ rest ∧ (front.length = count ∧ ∀ c ∈ front, digit c) ∧
      Fits digit parts rest
  | .mark c :: parts, text => ∃ rest, text = c :: rest ∧ Fits digit parts rest

def clock : List Part :=
  [.digits 4, .mark '-', .digits 2, .mark '-', .digits 2, .mark 'T', .digits 2, .mark ':',
    .digits 2, .mark ':', .digits 2]

def difference : List Part := [.digits 2, .mark ':', .digits 2]

inductive IsFraction : List Part → Prop where
  | none : IsFraction []
  | some (count : Nat) : IsFraction [.mark '.', .digits (count + 1)]

inductive IsOffset : List Part → Prop where
  | utc : IsOffset [.mark 'Z']
  | signed {sign : Char} (known : sign ∈ ['+', '-']) : IsOffset (.mark sign :: difference)

def Form (digit : Char → Prop) (text : List Char) : Prop :=
  ∃ fraction offset, IsFraction fraction ∧ IsOffset offset ∧
    Fits digit (clock ++ (fraction ++ offset)) text

def IsDigit (c : Char) : Prop := c.isDigit = true

def decimals : CharSet := .ranges Unicode.Category.decimalNumber

def IsDecimal (c : Char) : Prop := decimals.contains c.toNat = true

section Layouts

variable {digit other : Char → Prop} {text : List Char} {parts : List Part}

theorem fits_append (front back : List Part) : Fits digit (front ++ back) text ↔
    ∃ u v, text = u ++ v ∧ Fits digit front u ∧ Fits digit back v := by
  induction front generalizing text with
  | nil =>
    constructor
    · exact fun fits => ⟨[], text, rfl, rfl, fits⟩
    · rintro ⟨_, _, rfl, rfl, fits⟩
      exact fits
  | cons part front ih =>
    cases part with
    | digits count =>
      simp only [List.cons_append, Fits, ih]
      constructor
      · rintro ⟨word, _, rfl, run, u, v, rfl, fits, behind⟩
        exact ⟨word ++ u, v, (List.append_assoc ..).symm, ⟨word, u, rfl, run, fits⟩, behind⟩
      · rintro ⟨_, v, rfl, ⟨word, u, rfl, run, fits⟩, behind⟩
        exact ⟨word, u ++ v, List.append_assoc .., run, u, v, rfl, fits, behind⟩
    | mark c =>
      simp only [List.cons_append, Fits, ih]
      constructor
      · rintro ⟨_, rfl, u, v, rfl, fits, behind⟩
        exact ⟨c :: u, v, rfl, ⟨u, rfl, fits⟩, behind⟩
      · rintro ⟨_, v, rfl, ⟨u, rfl, fits⟩, behind⟩
        exact ⟨u ++ v, rfl, u, v, rfl, fits, behind⟩

theorem Fits.imp (weaker : ∀ c ∈ text, digit c → other c) (fits : Fits digit parts text) :
    Fits other parts text := by
  induction parts generalizing text with
  | nil => exact fits
  | cons part parts ih =>
    cases part with
    | digits count =>
      obtain ⟨front, rest, rfl, ⟨length, all⟩, behind⟩ := fits
      have here c (member : c ∈ front) := weaker c (List.mem_append_left _ member) (all c member)
      have there c (member : c ∈ rest) := weaker c (List.mem_append_right _ member)
      exact ⟨front, rest, rfl, ⟨length, here⟩, ih there behind⟩
    | mark c =>
      obtain ⟨rest, rfl, behind⟩ := fits
      exact ⟨rest, rfl, ih (fun d member => weaker d (List.mem_cons_of_mem _ member)) behind⟩

theorem Fits.forall (digits : ∀ c, digit c → other c) (marks : ∀ c, .mark c ∈ parts → other c)
    (fits : Fits digit parts text) : ∀ c ∈ text, other c := by
  induction parts generalizing text with
  | nil =>
    cases fits
    exact List.forall_mem_nil _
  | cons part parts ih =>
    have later c (member : .mark c ∈ parts) := marks c (List.mem_cons_of_mem _ member)
    cases part with
    | digits count =>
      obtain ⟨front, rest, rfl, ⟨_, all⟩, behind⟩ := fits
      intro c member
      rcases List.mem_append.mp member with front | back
      · exact digits c (all c front)
      · exact ih later behind c back
    | mark c =>
      obtain ⟨rest, rfl, behind⟩ := fits
      exact List.forall_mem_cons.mpr ⟨marks c List.mem_cons_self, ih later behind⟩

def width : List Part → Nat
  | [] => 0
  | .digits count :: parts => count + width parts
  | .mark _ :: parts => width parts + 1

theorem Fits.length (fits : Fits digit parts text) : text.length = width parts := by
  induction parts generalizing text with
  | nil => rw [fits]; rfl
  | cons part parts ih =>
    cases part with
    | digits count =>
      obtain ⟨front, rest, rfl, ⟨length, _⟩, behind⟩ := fits
      rw [List.length_append, ih behind, length, width]
    | mark c =>
      obtain ⟨rest, rfl, behind⟩ := fits
      rw [List.length_cons, ih behind, width]

/-- No layout is shorter than one that ends in the letter for UTC behind the seconds. -/
theorem Form.length (form : Form digit text) : 20 ≤ text.length := by
  obtain ⟨fraction, offset, first, last, fits⟩ := form
  rw [fits.length]
  cases first <;> cases last <;> simp only [clock, difference, List.cons_append, List.nil_append,
    width] <;> omega

theorem Form.imp (weaker : ∀ c ∈ text, digit c → other c) (form : Form digit text) :
    Form other text := by
  obtain ⟨fraction, offset, first, second, fits⟩ := form
  exact ⟨fraction, offset, first, second, fits.imp weaker⟩

theorem mark_ascii {fraction offset : List Part} (first : IsFraction fraction)
    (second : IsOffset offset) : ∀ c, .mark c ∈ clock ++ (fraction ++ offset) → c.toNat < 128 := by
  have point : ∀ c, .mark c ∈ fraction → c ∈ "-T:.Z+".toList := by
    cases first <;> simp
  have last : ∀ c, .mark c ∈ offset → c ∈ "-T:.Z+".toList := by
    cases second with
    | utc => simp
    | signed known =>
      simp only [List.mem_cons, List.not_mem_nil, or_false] at known
      rcases known with rfl | rfl <;> simp [difference]
  have ascii : ∀ c ∈ "-T:.Z+".toList, c.toNat < 128 := by simp
  intro c member
  apply ascii
  rcases List.mem_append.mp member with early | late
  · revert early
    simp [clock]
    grind
  · exact (List.mem_append.mp late).elim (point c) (last c)

theorem isDecimal_iff {c : Char} (ascii : c.toNat < 128) : IsDecimal c ↔ IsDigit c := by
  have table : ∀ n < 128, decimals.contains n = decide (48 ≤ n ∧ n ≤ 57) := by decide +kernel
  rw [IsDecimal, table _ ascii, decide_eq_true_iff, IsDigit, Char.isDigit, Bool.and_eq_true,
    decide_eq_true_iff, decide_eq_true_iff]
  exact Iff.rfl

theorem isDigit_ascii {c : Char} (digit : IsDigit c) : c.toNat < 128 := by
  rw [IsDigit, Char.isDigit, Bool.and_eq_true, decide_eq_true_iff, decide_eq_true_iff] at digit
  have below : c.toNat ≤ 57 := digit.2
  omega

/-- The two forms differ in texts with characters beyond ASCII only. -/
theorem ascii_form_iff : Form IsDigit text ↔ Form IsDecimal text ∧ ∀ c ∈ text, c.toNat < 128 := by
  constructor
  · intro form
    have ascii : ∀ c ∈ text, c.toNat < 128 := by
      obtain ⟨_, _, first, second, fits⟩ := form
      exact fits.forall (fun _ => isDigit_ascii) (mark_ascii first second)
    exact ⟨form.imp fun c member => (isDecimal_iff (ascii c member)).mpr, ascii⟩
  · rintro ⟨form, ascii⟩
    exact form.imp fun c member => (isDecimal_iff (ascii c member)).mp

end Layouts

section Spelling

variable {word : List Char}

def Part.pattern : Part → Pattern
  | .digits count => times (char decimals) count (some count)
  | .mark c => char (.single c.toNat)

def fractionPattern : Pattern :=
  times (cats (letters "." ++ [times (char decimals) 1 none])) 0 (some 1)

def signs : CharSet := .unions (['-', '+'].map (.single ·.toNat))

def offsetPattern : Pattern :=
  alts [char (.single 'Z'.toNat), cats (char signs :: difference.map Part.pattern)]

theorem ofText?_dateTime : ofText? TextFormat.dateTime.patternText =
    some (cats (look .textStart ::
      (clock.map Part.pattern ++ [fractionPattern, offsetPattern] ++ [look .textEnd]))) := by
  decide +kernel

theorem spells_parts (parts : List Part) (ps : List Pattern) :
    (cats (parts.map Part.pattern ++ ps)).Spells word ↔
      ∃ front rest, word = front ++ rest ∧ Fits IsDecimal parts front ∧ (cats ps).Spells rest := by
  induction parts generalizing word with
  | nil =>
    constructor
    · exact fun spelled => ⟨[], word, rfl, rfl, spelled⟩
    · rintro ⟨_, _, rfl, rfl, spelled⟩
      exact spelled
  | cons part parts ih =>
    rw [List.map_cons, List.cons_append]
    cases part with
    | digits count =>
      have run {front : List Char} : (Part.digits count).pattern.Spells front ↔
          front.length = count ∧ ∀ c ∈ front, IsDecimal c := by
        rw [Part.pattern, spells_run, ← and_assoc]
        refine and_congr ?_ Iff.rfl
        simp only [Option.mem_some_iff, forall_eq']
        omega
      simp only [spells_cats_cons, run, ih, Fits]
      constructor
      · rintro ⟨digits, _, rfl, all, front, rest, rfl, fits, behind⟩
        exact ⟨_, rest, (List.append_assoc ..).symm, ⟨digits, front, rfl, all, fits⟩, behind⟩
      · rintro ⟨_, rest, rfl, ⟨digits, front, rfl, all, fits⟩, behind⟩
        exact ⟨digits, _, List.append_assoc .., all, front, rest, rfl, fits, behind⟩
    | mark c =>
      simp only [Part.pattern, spells_char_cons, CharSet.single_contains, ih, Fits]
      constructor
      · rintro ⟨_, _, rfl, rfl, front, rest, rfl, fits, behind⟩
        exact ⟨_, rest, rfl, ⟨front, rfl, fits⟩, behind⟩
      · rintro ⟨_, rest, rfl, ⟨front, rfl, fits⟩, behind⟩
        exact ⟨_, _, rfl, rfl, front, rest, rfl, fits, behind⟩

theorem spells_fraction : fractionPattern.Spells word ↔
    ∃ fraction, IsFraction fraction ∧ Fits IsDecimal fraction word := by
  have behindPoint {part : List Char} :
      (cats (letters "." ++ [times (char decimals) 1 none])).Spells part ↔
        ∃ count, Fits IsDecimal [.mark '.', .digits (count + 1)] part := by
    simp only [spells_letters_append, cats, spells_run, Fits]
    constructor
    · rintro ⟨run, rfl, filled, _, all⟩
      exact ⟨run.length - 1, run, rfl, run, [], (List.append_nil _).symm, ⟨by omega, all⟩, rfl⟩
    · rintro ⟨count, _, rfl, run, _, rfl, ⟨length, all⟩, rfl⟩
      rw [List.append_nil]
      exact ⟨run, rfl, by omega, by simp, all⟩
  constructor
  · rintro ⟨words, rfl, _, bounded, all⟩
    have short : words.length ≤ 1 := bounded 1 rfl
    cases words with
    | nil => exact ⟨[], .none, rfl⟩
    | cons part others =>
      rw [List.length_cons] at short
      obtain rfl : others = [] := List.length_eq_zero_iff.mp (by omega)
      obtain ⟨count, fits⟩ := behindPoint.mp (all part List.mem_cons_self)
      rw [List.flatten_singleton]
      exact ⟨_, .some count, fits⟩
  · rintro ⟨_, known, fits⟩
    cases known with
    | none =>
      exact ⟨[], fits, Nat.le_refl 0, fun _ _ => Nat.zero_le _, List.forall_mem_nil _⟩
    | some count =>
      refine ⟨[word], (List.flatten_singleton ..).symm, Nat.zero_le _, ?_, ?_⟩
      · rintro bound ⟨⟩
        exact Nat.le_max_right ..
      · exact List.forall_mem_singleton.mpr (behindPoint.mpr ⟨count, fits⟩)

theorem spells_offset : offsetPattern.Spells word ↔
    ∃ offset, IsOffset offset ∧ Fits IsDecimal offset word := by
  have sign (c : Char) : signs.contains c.toNat = true ↔ c ∈ ['+', '-'] := by
    simp only [signs, CharSet.unions_contains, List.map_cons, List.map_nil, List.any_cons,
      List.any_nil, Bool.or_false, Bool.or_eq_true, CharSet.single_contains, List.mem_cons,
      List.not_mem_nil, or_false]
    exact or_comm
  have clocks {rest : List Char} : (cats (difference.map Part.pattern)).Spells rest ↔
      Fits IsDecimal difference rest := by
    have spelled : (cats (difference.map Part.pattern ++ [])).Spells rest ↔ _ :=
      spells_parts difference []
    rw [List.append_nil] at spelled
    simp only [spelled, cats, Spells, exists_eq_right_right, List.append_nil, exists_eq_left']
  simp only [offsetPattern, alts, Spells, spells_char_cons, sign, clocks, CharSet.single_contains]
  constructor
  · rintro (⟨_, rfl, rfl⟩ | ⟨c, rest, rfl, known, fits⟩)
    · exact ⟨_, .utc, [], rfl, rfl⟩
    · exact ⟨_, .signed known, rest, rfl, fits⟩
  · rintro ⟨_, kind, fits⟩
    cases kind with
    | utc =>
      obtain ⟨_, rfl, rfl⟩ := fits
      exact .inl ⟨_, rfl, rfl⟩
    | signed known =>
      obtain ⟨rest, rfl, behind⟩ := fits
      exact .inr ⟨_, rest, rfl, known, behind⟩

theorem accepts_iff (text : String) :
    TextFormat.dateTime.accepts text = true ↔ Form IsDecimal text.toList := by
  have plain : ∀ p ∈ clock.map Part.pattern ++ [fractionPattern, offsetPattern],
      p.isPlain = true := by
    decide +kernel
  rw [TextFormat.accepts, ofText?_dateTime, Option.any_some, isMatch_whole plain, spells_parts]
  simp only [cats, Spells, spells_fraction, spells_offset, Form, fits_append]
  constructor
  · rintro ⟨front, _, whole, fits, u, v, rfl, ⟨fraction, first, before⟩, offset, second, behind⟩
    exact ⟨fraction, offset, first, second, front, _, whole, fits, u, v, rfl, before, behind⟩
  · rintro ⟨fraction, offset, first, second, front, _, whole, fits, u, v, rfl, before, behind⟩
    exact ⟨front, _, whole, fits, u, v, rfl, ⟨fraction, first, before⟩, offset, second, behind⟩

end Spelling

end DateTimeFormat

namespace Reference

open DateTimeFormat

variable {settings : ValidationSettings} {registry : Registry} {node : Node} {location : Location}

/-- Wherever a string node with the format of date-times stands, both engines report a text for its
format when it is in none of the layouts with decimal digits of any script, and report nothing for
it otherwise. What they find besides is what they find without the format. Only characters beyond
ASCII can make the difference to the digits from 0 to 9. -/
theorem dateTime_format (settings : ValidationSettings) (registry : Registry)
    (near : location.depth ≤ settings.maxDepth) (expected : node.rules.kind = some .string)
    (named : node.rules.format = some "date-time")
    (compiles : ∀ source ∈ node.rules.pattern, Pattern.compiles source = true) (text : String) :
    ∃ before found after,
      nodeFindings settings registry node.withoutFormat location (.string text) =
        before ++ after ∧
      nodeFindings settings registry node location (.string text) = before ++ found ++ after ∧
      Optimized.Reports (Optimized.checkNode settings registry node location.depth (.string text))
        location.path ((before ++ found ++ after).map Finding.message)
        (nodeRequests settings node location.depth (.string text)) ∧
      (Form IsDecimal text.toList → found = []) ∧
      (¬Form IsDecimal text.toList → found = [⟨location.path, .notInFormat "date-time"⟩]) ∧
      (Form IsDigit text.toList ↔
        Form IsDecimal text.toList ∧ ∀ c ∈ text.toList, c.toNat < 128) := by
  have asked : node.rules.format = some TextFormat.dateTime.name := named
  obtain ⟨before, after, plain, whole⟩ :=
    nodeFindings_format registry near expected asked compiles text
  refine ⟨before, _, after, plain, whole, ?_, fun form => ?_, fun other => ?_, ascii_form_iff⟩
  · rw [← whole]
    exact Optimized.checkNode_reports settings registry node location (.string text)
  · rw [if_pos ((accepts_iff text).mpr form)]
  · rw [if_neg fun accepted => other ((accepts_iff text).mp accepted)]
    rfl

/-- A date-time without an offset is reported, beside a length that is too small. -/
theorem dateTime_format_due :
    let node : Node :=
      { rules := { kind := some .string, format := some "date-time", minLength := some 20 } }
    let location := Location.root.field "due"
    let text := "2023-01-01T12:30:00"
    location.depth ≤ (ValidationSettings.strict 4).maxDepth ∧
    node.rules.kind = some .string ∧
    node.rules.format = some "date-time" ∧
    (∀ source ∈ node.rules.pattern, Pattern.compiles source = true) ∧
    ∃ before after,
      nodeFindings (.strict 4) .standard node.withoutFormat location (.string text) =
        before ++ after ∧
      nodeFindings (.strict 4) .standard node location (.string text) =
        before ++ [⟨"due", .notInFormat "date-time"⟩] ++ after := by
  intro node location text
  have near : location.depth ≤ (ValidationSettings.strict 4).maxDepth := by decide
  have compiles : ∀ source ∈ node.rules.pattern, Pattern.compiles source = true := by
    intro source given
    cases given
  have refused : ¬Form IsDecimal text.toList := fun form => absurd form.length (by decide)
  obtain ⟨before, found, after, plain, whole, _, _, reported, _⟩ :=
    dateTime_format (.strict 4) .standard near (rfl : node.rules.kind = some .string) rfl compiles
      text
  refine ⟨near, rfl, rfl, compiles, before, after, plain, ?_⟩
  rw [whole, reported refused]
  rfl

theorem form_devanagari : Form IsDecimal "२०२३-01-01T12:30:00Z".toList := by
  have year : "२०३".toList.all (decimals.contains ·.toNat) = true := by decide +kernel
  have mixed : Form (fun c => c ∈ "२०३".toList ∨ IsDigit c) "२०२३-01-01T12:30:00Z".toList := by
    refine ⟨[], _, .none, .utc, "२०२३".toList, "-01-01T12:30:00Z".toList, by decide, ?_, _, rfl,
      "01".toList, _, rfl, ?_, _, rfl, "01".toList, _, rfl, ?_, _, rfl, "12".toList, _, rfl, ?_,
      _, rfl, "30".toList, _, rfl, ?_, _, rfl, "00".toList, _, rfl, ?_, _, rfl, rfl⟩
    all_goals simp [IsDigit]
  exact mixed.imp fun c _ digit =>
    digit.elim (List.all_eq_true.mp year c) fun ascii =>
      (isDecimal_iff (isDigit_ascii ascii)).mpr ascii

/-- Both engines accept a year in the digits of Devanagari. -/
theorem dateTime_format_devanagari :
    let schema := Schema.ofNode { rules := { kind := some .string, format := some "date-time" } }
    let text := "२०२३-01-01T12:30:00Z"
    ¬Form IsDigit text.toList ∧
    ∀ engine, ∃ next,
      (Validator.create engine {}).validate schema (.string text) = some (.success, next) := by
  intro schema text
  refine ⟨fun form => ?_, fun engine => ?_⟩
  · have ascii := (ascii_form_iff.mp form).2
    exact absurd (ascii '२' (by decide)) (by decide)
  · have ready := Validator.create_ready engine {}
    obtain ⟨_, accepted, _⟩ := ready.validate_eq schema (.string text)
    have near : Location.root.depth ≤ ({} : ValidationSettings).maxDepth := by decide
    have expected : schema.node.rules.kind = some .string := rfl
    have named : schema.node.rules.format = some TextFormat.dateTime.name := rfl
    obtain ⟨before, after, plain, whole⟩ :=
      nodeFindings_format .standard near expected named (fun _ given => nomatch given) text
    have none : nodeFindings {} .standard schema.node.withoutFormat .root (.string text) = [] := by
      decide +kernel
    obtain ⟨rfl, rfl⟩ := List.append_eq_nil_iff.mp (plain.symm.trans none)
    rw [if_pos ((accepts_iff text).mpr form_devanagari)] at whole
    rw [validate, whole] at accepted
    exact ⟨_, accepted⟩

end Reference

end SchemaCheck
