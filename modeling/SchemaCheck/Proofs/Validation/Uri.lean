import SchemaCheck.Proofs.Pattern.Spelling
import SchemaCheck.Proofs.Validation.Format

/-!
The format of URIs. Its pattern asks for a scheme, `://`, and at least two more characters, of which
the first opens the remainder and the second is anything but the end of a line; only behind these
two is there no white space (`accepts_iff`). So a remainder of one character is refused, and white
space in the second place is accepted.
-/

namespace SchemaCheck

open Json (Value)

namespace Uri

open Unicode (CharSet)
open Pattern

def schemes : List String := ["http", "https", "ftp"]

def marks : List Char := "#?.$/".toList

def Form (proper : List Char → Prop) (text : List Char) : Prop :=
  ∃ scheme ∈ schemes, ∃ remainder,
    text = scheme.toList ++ ("://".toList ++ remainder) ∧ proper remainder

/-- A remainder that is not empty, begins with none of the marks, and has no white space. -/
inductive Documented : List Char → Prop where
  | remainder {first rest} (unmarked : first ∉ marks)
    (solid : ∀ c ∈ first :: rest, Text.isBlank c = false) : Documented (first :: rest)

/-- A remainder of at least two characters, the second of which may be white space. -/
inductive Accepted : List Char → Prop where
  | remainder {first second rest} (unmarked : first ∉ marks) (filled : Text.isBlank first = false)
    (inLine : second ≠ '\n') (solid : ∀ c ∈ rest, Text.isBlank c = false) :
    Accepted (first :: second :: rest)

section Spelling

variable {word : List Char}

def blank : CharSet := .ranges Unicode.PropertyTable.whiteSpace

def opening : CharSet := .complement (.unions (marks.map (.single ·.toNat) ++ [blank]))

def schemePattern : Pattern :=
  alts [cats (letters "http" ++ [times (char (.single 's'.toNat)) 0 (some 1)]),
    cats (letters "ftp")]

def remainderPatterns : List Pattern :=
  [char opening, char (.complement (.single '\n'.toNat)), times (char (.complement blank)) 0 none]

theorem ofText?_uri : ofText? TextFormat.uri.patternText =
    some (cats (look .textStart ::
      (schemePattern :: (letters "://" ++ remainderPatterns) ++ [look .textEnd]))) := by
  decide +kernel

theorem opening_contains (c : Char) :
    opening.contains c.toNat = true ↔ c ∉ marks ∧ Text.isBlank c = false := by
  have marked : (marks.map (CharSet.single ·.toNat)).any (·.contains c.toNat) = true ↔
      c ∈ marks := by
    simp [CharSet.single_contains]
  have spaced : [blank].any (·.contains c.toNat) = Text.isBlank c := by
    rw [List.any_cons, List.any_nil, Bool.or_false, blank, CharSet.whiteSpace_contains]
  rw [opening, CharSet.contains, CharSet.unions_contains, List.any_append, spaced,
    Bool.not_eq_true', Bool.or_eq_false_iff, ← Bool.not_eq_true, marked]

theorem spells_scheme : schemePattern.Spells word ↔ ∃ scheme ∈ schemes, word = scheme.toList := by
  have plural {rest : List Char} :
      (cats [times (char (.single 's'.toNat)) 0 (some 1)]).Spells rest ↔
        rest = [] ∨ rest = ['s'] := by
    rw [cats, spells_run]
    simp only [CharSet.single_contains]
    constructor
    · rintro ⟨_, short, all⟩
      have one : rest.length ≤ 1 := short 1 rfl
      cases rest with
      | nil => exact .inl rfl
      | cons c more =>
        rw [List.length_cons] at one
        obtain rfl : more = [] := List.length_eq_zero_iff.mp (by omega)
        exact .inr (congrArg ([·]) (all c List.mem_cons_self))
    · rintro (rfl | rfl) <;> simp
  have files : (cats (letters "ftp" ++ [])).Spells word ↔ _ := spells_letters_append "ftp" []
  rw [List.append_nil] at files
  simp only [schemePattern, alts, Spells, files, spells_letters_append, plural]
  constructor
  · rintro (⟨_, rfl, rfl | rfl⟩ | ⟨_, rfl, rfl⟩)
    · exact ⟨"http", by decide, rfl⟩
    · exact ⟨"https", by decide, rfl⟩
    · exact ⟨"ftp", by decide, rfl⟩
  · rintro ⟨scheme, known, rfl⟩
    simp only [schemes, List.mem_cons, List.not_mem_nil, or_false] at known
    rcases known with rfl | rfl | rfl
    · exact .inl ⟨[], rfl, .inl rfl⟩
    · exact .inl ⟨['s'], rfl, .inr rfl⟩
    · exact .inr ⟨[], rfl, rfl⟩

theorem spells_remainder : (cats remainderPatterns).Spells word ↔ Accepted word := by
  have inLine (c : Char) : (CharSet.complement (.single '\n'.toNat)).contains c.toNat = true ↔
      c ≠ '\n' := by
    rw [CharSet.contains, Bool.not_eq_true', ← Bool.not_eq_true, CharSet.single_contains]
  have solid (c : Char) : (CharSet.complement blank).contains c.toNat = true ↔
      Text.isBlank c = false := by
    rw [CharSet.contains, Bool.not_eq_true', blank, CharSet.whiteSpace_contains]
  have run {rest : List Char} : (cats [times (char (.complement blank)) 0 none]).Spells rest ↔
      ∀ c ∈ rest, Text.isBlank c = false := by
    simp [cats, spells_run, solid]
  simp only [remainderPatterns, spells_char_cons, opening_contains, inLine, run]
  constructor
  · rintro ⟨first, _, rfl, ⟨unmarked, filled⟩, second, rest, rfl, other, behind⟩
    exact .remainder unmarked filled other behind
  · rintro ⟨unmarked, filled, other, behind⟩
    exact ⟨_, _, rfl, ⟨unmarked, filled⟩, _, _, rfl, other, behind⟩

theorem accepts_iff (text : String) :
    TextFormat.uri.accepts text = true ↔ Form Accepted text.toList := by
  rw [TextFormat.accepts, ofText?_uri, Option.any_some, isMatch_whole (by decide), spells_cats_cons]
  simp only [spells_scheme, spells_letters_append, spells_remainder]
  constructor
  · rintro ⟨_, _, whole, ⟨scheme, known, rfl⟩, remainder, rfl, accepted⟩
    exact ⟨scheme, known, remainder, whole, accepted⟩
  · rintro ⟨scheme, known, remainder, whole, accepted⟩
    exact ⟨_, _, whole, ⟨scheme, known, rfl⟩, remainder, rfl, accepted⟩

end Spelling

end Uri

namespace Reference

variable {settings : ValidationSettings} {registry : Registry} {node : Node} {location : Location}

/-- Wherever a string node with the format of URIs stands, both engines report a text for its format
when it is not a scheme, `://` and an accepted remainder, and report nothing for it otherwise. What
they find besides is what they find without the format. -/
theorem uri_format (settings : ValidationSettings) (registry : Registry)
    (near : location.depth ≤ settings.maxDepth) (expected : node.rules.kind = some .string)
    (named : node.rules.format = some "uri")
    (compiles : ∀ source ∈ node.rules.pattern, Pattern.compiles source = true) (text : String) :
    ∃ before found after,
      nodeFindings settings registry node.withoutFormat location (.string text) =
        before ++ after ∧
      nodeFindings settings registry node location (.string text) = before ++ found ++ after ∧
      Optimized.Reports (Optimized.checkNode settings registry node location.depth (.string text))
        location.path ((before ++ found ++ after).map Finding.message)
        (nodeRequests settings node location.depth (.string text)) ∧
      (Uri.Form Uri.Accepted text.toList → found = []) ∧
      (¬Uri.Form Uri.Accepted text.toList → found = [⟨location.path, .notInFormat "uri"⟩]) := by
  have asked : node.rules.format = some TextFormat.uri.name := named
  obtain ⟨before, after, plain, whole⟩ :=
    nodeFindings_format registry near expected asked compiles text
  refine ⟨before, _, after, plain, whole, ?_, fun form => ?_, fun other => ?_⟩
  · rw [← whole]
    exact Optimized.checkNode_reports settings registry node location (.string text)
  · rw [if_pos ((Uri.accepts_iff text).mpr form)]
  · rw [if_neg fun accepted => other ((Uri.accepts_iff text).mp accepted)]
    rfl

/-- A remainder of one character is reported, beside a length that is too small. -/
theorem uri_format_site :
    let node : Node :=
      { rules := { kind := some .string, format := some "uri", minLength := some 12 } }
    let location := Location.root.field "site"
    location.depth ≤ (ValidationSettings.strict 4).maxDepth ∧
    node.rules.kind = some .string ∧
    node.rules.format = some "uri" ∧
    (∀ source ∈ node.rules.pattern, Pattern.compiles source = true) ∧
    ∃ before after,
      nodeFindings (.strict 4) .standard node.withoutFormat location (.string "ftp://x") =
        before ++ after ∧
      nodeFindings (.strict 4) .standard node location (.string "ftp://x") =
        before ++ [⟨"site", .notInFormat "uri"⟩] ++ after := by
  intro node location
  have near : location.depth ≤ (ValidationSettings.strict 4).maxDepth := by decide
  have compiles : ∀ source ∈ node.rules.pattern, Pattern.compiles source = true := by
    intro source given
    cases given
  have refused : ¬Uri.Form Uri.Accepted "ftp://x".toList := by
    rw [← Uri.accepts_iff]
    decide +kernel
  obtain ⟨before, found, after, plain, whole, _, _, reported⟩ :=
    uri_format (.strict 4) .standard near (rfl : node.rules.kind = some .string) rfl compiles
      "ftp://x"
  refine ⟨near, rfl, rfl, compiles, before, after, plain, ?_⟩
  rw [whole, reported refused]
  rfl

/-- Neither engine accepts a remainder of one character, and both accept white space in the second
place of a remainder. -/
theorem uri_format_undocumented :
    let schema := Schema.ofNode { rules := { kind := some .string, format := some "uri" } }
    Uri.Form Uri.Documented "http://a".toList ∧
    ¬Uri.Form Uri.Documented "http://a b".toList ∧
    ∀ engine,
      (∃ next, (Validator.create engine {}).validate schema (.string "http://a") =
        some (.ofErrors ["value must be a valid uri"], next)) ∧
      ∃ next, (Validator.create engine {}).validate schema (.string "http://a b") =
        some (.success, next) := by
  intro schema
  have short : Uri.Documented ['a'] := .remainder (by decide) (by simp [Text.isBlank])
  refine ⟨⟨"http", by decide, ['a'], rfl, short⟩, ?_, fun engine => ?_⟩
  · rintro ⟨scheme, known, remainder, whole, _, solid⟩
    have apart : ∀ scheme ∈ Uri.schemes, ' ' ∉ scheme.toList ++ "://".toList := by decide
    have inside : ' ' ∈ "http://a b".toList := by decide
    rw [whole, ← List.append_assoc] at inside
    rcases List.mem_append.mp inside with front | back
    · exact apart scheme known front
    · exact absurd (solid ' ' back) (by decide)
  · have ready := Validator.create_ready engine {}
    obtain ⟨_, refused, _⟩ := ready.validate_eq schema (.string "http://a")
    obtain ⟨_, accepted, _⟩ := ready.validate_eq schema (.string "http://a b")
    have reports : Reference.validate {} .standard schema (.string "http://a") =
        .ofErrors ["value must be a valid uri"] := by
      decide +kernel
    have silent : Reference.validate {} .standard schema (.string "http://a b") = .success := by
      decide +kernel
    rw [reports] at refused
    rw [silent] at accepted
    exact ⟨⟨_, refused⟩, _, accepted⟩

end Reference

end SchemaCheck
