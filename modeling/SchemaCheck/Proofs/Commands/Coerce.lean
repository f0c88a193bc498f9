import SchemaCheck.Commands.Coerce
import SchemaCheck.Proofs.Coercion.JsonText

/-!
The command that coerces a value, where its argument is read through a format. The argument stands
for itself only if it is no JSON text; otherwise the value in it is coerced, and the report on it
compares with that on the text as the format has it (`CoerceTask.report_typed`).
-/

namespace SchemaCheck.CommandLine.CoerceTask

open Json (Value)

/-- The command takes a value for what is meant and reports the text it is coerced to, or refuses
it if there is none. -/
def Gives (task : CoerceTask) (input : Value) (text : Option String) : Prop :=
  task.report = match text with
    | some text =>
      .ok
        { input
          kind := Kind.string.name
          format := task.format
          value := .string text }
    | none => .error (.notCoerced input.compact task.target)

variable {task : CoerceTask} {name text : String} {format : SemanticFormat}

theorem gives_input (string : task.kind = .string) (given : task.format = some name)
    (named : SemanticFormat.ofName? name = some format) :
    task.Gives task.input (format.text? task.input) := by
  have known : (task.format.filter fun name => (SemanticFormat.ofName? name).isNone) = none := by
    rw [given, Option.filter_some, named]
    rfl
  unfold Gives report
  rw [known, string, given]
  simp only [Kind.read?_text named]
  cases format.text? task.input <;> rfl

/-- An argument that is no JSON text is coerced as it is typed. With one that is, the command
coerces the value in it, and what comes of this depends on the format. -/
theorem report_typed (string : task.kind = .string) (given : task.format = some name)
    (named : SemanticFormat.ofName? name = some format)
    (typed : Kind.read? .string (some name) (.string task.value) = some (.json (.string text))) :
    (Json.parse? task.value = none → task.Gives (.string task.value) (some text)) ∧
      ∀ value, Json.parse? task.value = some value →
        task.Gives value (format.text? value) ∧ format.Compares task.value value text := by
  have written : format.text? (.string task.value) = some text := by
    rw [Kind.read?_text named] at typed
    obtain ⟨found, read, made⟩ := Option.map_eq_some_iff.mp typed
    injection made with made
    injection made with same
    rw [read, same]
  have gives := gives_input string given named
  constructor
  · intro noJson
    have itself : task.input = .string task.value := by rw [input, noJson, Option.getD_none]
    rwa [itself, written] at gives
  · intro value parsed
    have meant : task.input = value := by rw [input, parsed, Option.getD_some]
    rw [meant] at gives
    exact ⟨gives, SemanticFormat.compares_of_parse? parsed written⟩

/-- A number of seconds as a date, and words that are no JSON text as a duration. -/
theorem report_typed_seconds :
    let seconds : CoerceTask := { format := some "date", value := "86400" }
    let words : CoerceTask := { format := some "duration", value := "90 minutes" }
    (∃ value, Json.parse? "86400" = some value ∧ seconds.Gives value (some "1970-01-02")) ∧
      words.Gives (.string "90 minutes") (some "1h 30m") := by
  intro seconds words
  have day : SemanticFormat.date.text? (.string "86400") = some "1970-01-02" := by decide +kernel
  have amount : SemanticFormat.duration.text? (.string "90 minutes") = some "1h 30m" := by
    decide +kernel
  constructor
  · have typed : Kind.read? .string (some "date") (.string "86400") =
        some (.json (.string "1970-01-02")) := by
      rw [Kind.read?_text rfl, day]
      rfl
    have isJson : (Json.parse? "86400").isSome = true := by decide +kernel
    obtain ⟨value, parsed⟩ := Option.isSome_iff_exists.mp isJson
    have string : seconds.kind = .string := rfl
    obtain ⟨gives, same⟩ := (report_typed string rfl rfl typed).2 value parsed
    rw [SemanticFormat.Compares, if_neg (by decide)] at same
    rw [same] at gives
    exact ⟨value, parsed, gives⟩
  · have typed : Kind.read? .string (some "duration") (.string "90 minutes") =
        some (.json (.string "1h 30m")) := by
      rw [Kind.read?_text rfl, amount]
      rfl
    have noJson : (Json.parse? "90 minutes").isNone = true := by decide +kernel
    have string : words.kind = .string := rfl
    exact (report_typed string rfl rfl typed).1 (Option.isNone_iff_eq_none.mp noJson)

/-- What a text is coerced to by a format as it is typed, and the text that the command reports for
it instead, if any. -/
theorem report_untyped :
    [("hostname", "123"), ("base64", "null"), ("uuid", "12345678901234567890123456789012"),
      ("date", "-0"), ("date-time", "-0"), ("json", "\"a\""), ("url", "\"@[::1]/\""),
      ("duration", "7832090930386.9860")].map (fun (name, typed) =>
        ((Kind.read? .string (some name) (.string typed)).map Meaning.text,
          (CoerceTask.report { format := some name, value := typed }).toOption.bind
            (·.value.text?))) =
      [(some "123", none), (some "null", none),
        (some "12345678-9012-3456-7890-123456789012", none), (some "1970-01-01", none),
        (some "1970-01-01T00:00:00Z", none), (some "a", none),
        (some "https://%22@[::1]/%22", some "https://[::1]/"),
        (some "248years 2months 6days 7h 41m 38s 386ms 986us 732ns",
          some "248years 2months 6days 7h 41m 38s 386ms 985us 779ns")] := by
  decide +kernel

end SchemaCheck.CommandLine.CoerceTask
