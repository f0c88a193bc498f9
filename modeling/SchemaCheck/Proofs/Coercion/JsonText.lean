import SchemaCheck.Proofs.Calendar.Seconds
import SchemaCheck.Proofs.Coercion.Bytes
import SchemaCheck.Proofs.Coercion.Json
import SchemaCheck.Proofs.Duration.JsonText
import SchemaCheck.Proofs.Json.Behind
import SchemaCheck.Proofs.Net.JsonText
import SchemaCheck.Proofs.Uuid

/-!
Texts that are both JSON text and the text of something else. For each format, it is shown what is
read from the value that such a text stands for, as against what is read from the text itself: no
JSON text is an address; instants and durations are read from the numbers, which mean the same in
all but a few cases; and identifiers, bytes and host names are read from no value but a string, of
which the text would have to start with a quote.
-/

namespace SchemaCheck

open Json (Value Number Spelled IsNumeral parse?_spelled)

theorem Uuid.ofText?_quoted (rest : List Char) : ofText? ('"' :: rest) = none := by
  have notHex : Text.isHexDigit '"' = false := by decide
  refine Option.eq_none_iff_forall_ne_some.mpr fun id read => ?_
  obtain ⟨digits, spelling, spelled⟩ := ofText?_eq_some_iff.mp read
  have noDigit : '"' ∉ digits := by
    intro member
    rw [spelled.isHexDigit '"' member] at notHex
    cases notHex
  generalize text : '"' :: rest = whole at spelling
  cases spelling with
  | plain => exact noDigit (text ▸ List.mem_cons_self)
  | grouped =>
    rcases mem_hyphenated (text ▸ List.mem_cons_self : '"' ∈ hyphenated digits) with same | digit
    · cases same
    · exact noDigit digit
  | braced => cases (List.cons.inj text).1
  | @named front name =>
    cases front with
    | nil => cases name
    | cons c front =>
      obtain rfl := (List.cons.inj text).1
      have first : some '"'.toLower = namePrefix.head? := congrArg List.head? name
      exact absurd first (by decide)

theorem Base64.decodeAny?_quoted (rest : List Char) : decodeAny? ('"' :: rest) = none := by
  have symbols : ∀ variant ∈ variants, ∀ n < 64, variant.symbol n ≠ '"' := by
    simp only [variants, List.forall_mem_cons]
    decide
  refine Option.eq_none_iff_forall_ne_some.mpr fun bytes read => ?_
  obtain ⟨variant, member, written⟩ := decodeAny?_eq_some_iff.mp read
  rcases Variant.mem_encode (written ▸ List.mem_cons_self) with pad | ⟨n, small, symbol⟩
  · cases pad
  · exact symbols variant member n small symbol.symm

namespace Coercion

variable {text : String} {value : Value}

theorem toInstant?_parsed {i : Calendar.Instant} (parsed : Json.parse? text = some value)
    (typed : toInstant? (.string text) = some i) :
    toInstant? value = if Text.trim text.toList = ['-', '0'] then none else some i := by
  have read : Calendar.ofText? (Text.trim text.toList) = some i := by
    rw [← typed]
    exact (bind_givenText? rfl text).symm
  obtain ⟨n, rfl, numeral⟩ := Calendar.ofText?_spelled (parse?_spelled parsed).1 read
  show n.signed?.bind Calendar.ofUnixSeconds? = _
  split
  next zero =>
    rw [zero] at numeral
    rw [numeral.signed?_minusZero]
    rfl
  next other => rw [← read, Calendar.ofText?_numeral numeral other]

theorem toDate?_parsed {date : Calendar.Date} (parsed : Json.parse? text = some value)
    (typed : toDate? (.string text) = some date) :
    toDate? value = if Text.trim text.toList = ['-', '0'] then none else some date := by
  obtain ⟨i, read, rfl⟩ := Option.map_eq_some_iff.mp typed
  rw [toDate?, toInstant?_parsed parsed read]
  split <;> rfl

theorem toDuration?_parsed {d : Duration} (parsed : Json.parse? text = some value)
    (typed : toDuration? (.string text) = some d) :
    ∃ n, value = .number n ∧
      ((n.unsigned?.isSome ∨ Binary64.read? (Text.trim text.toList) = some n.toBinary64) →
        toDuration? value = some d) ∧
      (n.unsigned? = none → toDuration? value = Duration.ofRealMilliseconds? n.toBinary64) := by
  have read : Duration.ofText? (Text.trim text.toList) = some d := by
    rw [← typed]
    exact (bind_givenText? rfl text).symm
  obtain ⟨n, rfl, numeral⟩ := Duration.ofText?_spelled (parse?_spelled parsed).1 read
  rw [Duration.ofText?_numeral numeral] at read
  refine ⟨n, rfl, fun same => ?_, fun real => ?_⟩
  · rw [toDuration?, ← read]
    cases counted : n.unsigned? with
    | some count => rfl
    | none =>
      rw [counted] at same
      rw [same.resolve_left (by decide)]
      rfl
  · rw [toDuration?, real]

/-- Where no text in quotes is read, none is read from the value of a text that is. -/
theorem givenText?_parsed {Result : Type} {read : List Char → Option Result} {found : Result}
    (nothing : read [] = none) (quoted : ∀ rest, read ('"' :: rest) = none)
    (parsed : Json.parse? text = some value)
    (typed : (givenText? (.string text)).bind read = some found) : givenText? value = none := by
  rw [bind_givenText? nothing] at typed
  cases value with
  | string inner =>
    obtain ⟨spelled, _⟩ := parse?_spelled parsed
    generalize Text.trim text.toList = whole at *
    cases spelled
    rw [quoted] at typed
    cases typed
  | _ => rfl

theorem toUuid?_parsed {id : Uuid} (parsed : Json.parse? text = some value)
    (typed : toUuid? (.string text) = some id) : toUuid? value = none := by
  rw [toUuid?, givenText?_parsed rfl Uuid.ofText?_quoted parsed typed]
  rfl

theorem toBytes?_parsed {bytes : List UInt8} (parsed : Json.parse? text = some value)
    (typed : toBytes? (.string text) = some bytes) : toBytes? value = none := by
  cases value with
  | string inner =>
    obtain ⟨spelled, _⟩ := parse?_spelled parsed
    change Base64.decodeAny? (Text.trim text.toList) = some bytes at typed
    generalize Text.trim text.toList = whole at *
    cases spelled
    rw [Base64.decodeAny?_quoted] at typed
    cases typed
  | _ => rfl

theorem toHostname?_parsed {name : List Char} (parsed : Json.parse? text = some value)
    (typed : toHostname? (.string text) = some name) : toHostname? value = none := by
  have quoted (rest : List Char) :
      (if Net.Hostname.isHostname ('"' :: rest) then some ('"' :: rest) else none) = none := by
    rw [Net.Hostname.isHostname_quoted, if_neg Bool.false_ne_true]
  rw [toHostname?, givenText?_parsed rfl quoted parsed typed]
  rfl

theorem decode?_parsed {content : Value} (parsed : Json.parse? text = some value)
    (typed : decode? (.string text) = some content) : content = value :=
  Json.parse?_trimmed parsed typed

theorem toUrl?_parsed (parsed : Json.parse? text = some value) :
    (∃ inner, value = .string inner) ∨ toUrl? value = none := by
  cases value with
  | string inner => exact .inl ⟨inner, rfl⟩
  | _ => exact .inr rfl

end Coercion

open Coercion

def SemanticFormat.text? (format : SemanticFormat) (value : Value) : Option String :=
  (format.read? value).map Meaning.text

theorem Kind.read?_text {name : String} {format : SemanticFormat}
    (named : SemanticFormat.ofName? name = some format) (value : Value) :
    Kind.read? .string (some name) value = (format.text? value).map (.json <| .string ·) := by
  rw [Kind.read?_named named, SemanticFormat.text?, Option.map_map]
  rfl

namespace SemanticFormat

/-- How the canonical text of the value in a JSON text compares with the one of the text itself. -/
def Compares (written : String) (value : Value) (text : String) : SemanticFormat → Prop
  | .email | .ip | .ipv4 | .ipv6 => False
  | .dateTime =>
    dateTime.text? value = if Text.trim written.toList = ['-', '0'] then none else some text
  | .date => date.text? value = if Text.trim written.toList = ['-', '0'] then none else some text
  | .uuid => uuid.text? value = none
  | .base64 => base64.text? value = none
  | .hostname => hostname.text? value = none
  | .url => (∃ inner, value = .string inner) ∨ url.text? value = none
  | .duration => ∃ n, value = .number n ∧
      ((n.unsigned?.isSome ∨ Binary64.read? (Text.trim written.toList) = some n.toBinary64) →
        duration.text? value = some text) ∧
      (n.unsigned? = none → duration.text? value =
        (Duration.ofRealMilliseconds? n.toBinary64).map Duration.render)
  | .json =>
    (∀ inner, value = .string inner → text = inner ∧ json.text? value = recode? inner) ∧
      (value.text? = none → json.text? value = some text)

variable {written text : String} {value : Value} {format : SemanticFormat}

theorem json_text? (inner : String) : json.text? (.string inner) = recode? inner := by
  rw [text?, SemanticFormat.read?, Option.map_map, recode?]
  rfl

theorem compares_of_parse? (parsed : Json.parse? written = some value)
    (typed : format.text? (.string written) = some text) :
    format.Compares written value text := by
  obtain ⟨meaning, read, rfl⟩ := Option.map_eq_some_iff.mp typed
  have spelled := (parse?_spelled parsed).1
  cases format with
  | email =>
    obtain ⟨address, found, _⟩ := Option.map_eq_some_iff.mp read
    rw [toEmail?, bind_givenText? rfl, Net.Email.address?_spelled spelled] at found
    cases found
  | ip =>
    obtain ⟨address, found, _⟩ := Option.map_eq_some_iff.mp read
    rw [toIp?, bind_givenText? rfl, Net.Ip.ofText?_spelled spelled] at found
    cases found
  | ipv4 =>
    obtain ⟨address, found, _⟩ := Option.map_eq_some_iff.mp read
    rw [toIpv4?, bind_givenText? rfl, Net.Ipv4.ofText?_spelled spelled] at found
    cases found
  | ipv6 =>
    obtain ⟨address, found, _⟩ := Option.map_eq_some_iff.mp read
    rw [toIpv6?, bind_givenText? rfl, Net.Ipv6.ofText?_spelled spelled] at found
    cases found
  | dateTime =>
    obtain ⟨i, found, rfl⟩ := Option.map_eq_some_iff.mp read
    rw [Compares, text?, SemanticFormat.read?, toInstant?_parsed parsed found]
    split <;> rfl
  | date =>
    obtain ⟨date, found, rfl⟩ := Option.map_eq_some_iff.mp read
    rw [Compares, text?, SemanticFormat.read?, toDate?_parsed parsed found]
    split <;> rfl
  | uuid =>
    obtain ⟨id, found, rfl⟩ := Option.map_eq_some_iff.mp read
    rw [Compares, text?, SemanticFormat.read?, toUuid?_parsed parsed found]
    rfl
  | base64 =>
    obtain ⟨bytes, found, rfl⟩ := Option.map_eq_some_iff.mp read
    rw [Compares, text?, SemanticFormat.read?, toBytes?_parsed parsed found]
    rfl
  | hostname =>
    obtain ⟨host, found, rfl⟩ := Option.map_eq_some_iff.mp read
    rw [Compares, text?, SemanticFormat.read?, toHostname?_parsed parsed found]
    rfl
  | url =>
    refine (toUrl?_parsed parsed).imp_right fun nothing => ?_
    rw [text?, SemanticFormat.read?, nothing]
    rfl
  | duration =>
    obtain ⟨d, found, rfl⟩ := Option.map_eq_some_iff.mp read
    obtain ⟨n, number, same, other⟩ := toDuration?_parsed parsed found
    refine ⟨n, number, fun agree => ?_, fun real => ?_⟩
    · rw [text?, SemanticFormat.read?, same agree]
      rfl
    · rw [text?, SemanticFormat.read?, other real, Option.map_map]
      rfl
  | json =>
    rw [SemanticFormat.read?] at read
    obtain ⟨content, found, rfl⟩ := Option.map_eq_some_iff.mp read
    obtain rfl := decode?_parsed parsed found
    refine ⟨?_, fun noString => ?_⟩
    · rintro inner rfl
      exact ⟨rfl, json_text? inner⟩
    · cases content with
      | string inner => cases noString
      | _ => rfl

end SemanticFormat

end SchemaCheck
