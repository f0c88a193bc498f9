import SchemaCheck.Output
import SchemaCheck.Proofs.Json.Spacing
import SchemaCheck.Proofs.Yaml.Collections
import SchemaCheck.Proofs.Yaml.Nodes

/-!
What is written of a report on inputs: in every format there is an entry for each of them, in their
order. The text for people is known line by line, and the other texts are read back as the content
of the report.
-/

namespace SchemaCheck

open Json (Value)
open Text (Paint)

section Colour

def tinted (color : Bool) (codes text : String) : String :=
  if color then "\x1b[" ++ codes ++ "m" ++ text ++ "\x1b[0m" else text

theorem Text.Paint.reopen_plain {opening text : List Char} (plain : '\x1b' ∉ text) :
    Paint.reopen opening 0 text = text := by
  induction text with
  | nil => rfl
  | cons c rest ih =>
    have noReset : Paint.reset.isPrefixOf (c :: rest) = false := by
      rw [Paint.reset, Paint.sequence, List.isPrefixOf,
        beq_eq_false_iff_ne.mpr (List.ne_of_not_mem_cons plain), Bool.false_and]
    rw [Paint.reopen, noReset, if_neg Bool.false_ne_true, ih (List.not_mem_of_not_mem_cons plain)]

theorem Output.paint_plain (output : Output) (paint : Paint) {text : String}
    (plain : '\x1b' ∉ text.toList) :
    output.paint paint text = tinted output.color paint.codes text := by
  rw [Output.paint, tinted]
  split
  · rw [Paint.apply, Paint.reopen_plain plain, ← String.toList_inj]
    simp [Paint.sequence, Paint.reset]
  · rfl

end Colour

section Ends

namespace Output

theorem endsWith_iff (text : String) :
    text.endsWith "\n" = true ↔ ∃ front, text.toList = front ++ ['\n'] := by
  rw [String.endsWith_eq_endsWith_toSlice, String.Slice.endsWith_string_iff, String.copy_toSlice]
  exact ⟨fun ⟨front, same⟩ => ⟨front, same.symm⟩, fun ⟨front, same⟩ => ⟨front, same.symm⟩⟩

theorem ended_line {text : String} {front : List Char} {c : Char}
    (last : text.toList = front ++ [c]) (other : c ≠ '\n') : ended text = text ++ "\n" := by
  refine if_neg fun ends => ?_
  obtain ⟨_, same⟩ := (endsWith_iff text).mp ends
  rw [last] at same
  exact other (List.append_inj_right' same rfl |> List.cons.inj).1

end Output

end Ends

section Lines

/-- What people read of an input: its mark and path, and a line for each error. -/
def InputReport.lines (color : Bool) (report : InputReport) : String :=
  if report.result.valid then tinted color "32" "✓" ++ " " ++ report.input ++ "\n"
  else
    tinted color "31" "✗" ++ " " ++ report.input ++ " " ++
        tinted color "2" s!"({report.result.errors.length} error(s))" ++ "\n" ++
      String.join (report.result.errors.map fun error =>
        "  " ++ tinted color "31" "•" ++ " " ++ error ++ "\n")

def ValidationReport.lines (color : Bool) (report : ValidationReport) : String :=
  let valid := report.inputs.countP (·.result.valid)
  let total := report.inputs.length
  String.join (report.inputs.map (·.lines color)) ++
    tinted color (if report.isValid then "1;32" else "1;31")
      s!"{valid} of {total} input(s) valid ({report.engine} engine)" ++ "\n"

theorem toDigits_plain (n : Nat) : '\x1b' ∉ Nat.toDigits 10 n := fun member =>
  absurd (Text.digitsOf_all n _ member) (by decide)

namespace Output

theorem join_line (texts : List String) (f : String → String) :
    String.join ((texts.map f).map line) = String.join (texts.map fun text => f text ++ "\n") := by
  rw [List.map_map]
  rfl

theorem inputLines_lines (output : Output) (report : InputReport) :
    String.join ((output.inputLines report).map line) = report.lines output.color := by
  have count : '\x1b' ∉ report.countPhrase.toList := by
    simp [InputReport.countPhrase, toDigits_plain]
    decide
  unfold inputLines InputReport.lines
  split
  next =>
    rw [paint_plain output _ (by decide), List.map_singleton, String.join_cons, String.join_nil,
      String.append_empty]
    rfl
  next =>
    rw [paint_plain output _ count, paint_plain output _ (by decide),
      paint_plain output _ (by decide), List.map_cons, String.join_cons, join_line]
    rfl

theorem join_flatMap {α : Type} (items : List α) (f : α → List String) :
    String.join ((items.flatMap f).map line) =
      String.join (items.map fun item => String.join ((f item).map line)) := by
  induction items with
  | nil => rfl
  | cons item rest ih =>
    rw [List.flatMap_cons, List.map_append, String.join_append, ih, List.map_cons, String.join_cons]

theorem validation_human {output : Output} (human : output.format = .human)
    {report : ValidationReport} (plain : '\x1b' ∉ report.engine.toList) :
    output.validation report = report.lines output.color := by
  have counted : report.inputs.length - report.invalidCount =
      report.inputs.countP (·.result.valid) := by
    have all : report.inputs.length = report.inputs.countP (·.result.valid) + _ :=
      List.length_eq_countP_add_countP _
    have invalid : report.invalidCount =
        report.inputs.countP fun entry => decide ¬entry.result.valid = true := by
      rw [ValidationReport.invalidCount, ← List.countP_eq_length_filter]
      exact List.countP_congr fun entry _ => by simp
    omega
  have shown : '\x1b' ∉ report.summary.toList := by
    simp only [ValidationReport.summary]
    simp [toDigits_plain]
    exact ⟨by decide, by decide, plain, by decide⟩
  have bracket : " engine)".toList = " engine".toList ++ [')'] := by decide
  have last : ∃ front, report.summary.toList = front ++ [')'] :=
    ⟨_, (String.toList_append ..).trans ((congrArg _ bracket).trans (List.append_assoc ..).symm)⟩
  have summary (paint : Paint) : (if output.color then line (output.paint paint report.summary)
      else ended (output.paint paint report.summary)) =
        tinted output.color paint.codes report.summary ++ "\n" := by
    rw [paint_plain output paint shown]
    cases color : output.color with
    | true => rfl
    | false =>
      rw [if_neg Bool.false_ne_true, tinted, if_neg Bool.false_ne_true]
      exact ended_line last.choose_spec (by decide)
  rw [validation, if_pos human]
  dsimp only
  rw [join_flatMap, summary, ValidationReport.lines, ← counted, ← String.append_assoc]
  simp only [inputLines_lines]
  cases report.isValid <;> rfl

end Output

end Lines

section Values

/-- What a reader of values finds in a report: an entry for each input, in their order. The fields
of an object stand in the order of their names. -/
def ValidationReport.content (report : ValidationReport) : Value :=
  .object
    [("engine", .string report.engine),
      ("inputs", .array (report.inputs.map fun entry => .object
        [("errors", .array (entry.result.errors.map .string)), ("input", .string entry.input),
          ("valid", .bool entry.result.valid)])),
      ("valid", .bool report.isValid)]

namespace ValidationReport

theorem sortedItems_map {α : Type} (items : List α) (f : α → Value) :
    Value.sortedItems (items.map f) = items.map fun item => (f item).sorted := by
  induction items with
  | nil => rfl
  | cons item rest ih => rw [List.map_cons, Value.sortedItems, ih, List.map_cons]

theorem sorted_toValue (report : ValidationReport) : report.toValue.sorted = report.content := by
  have ordered (a b c : Value) : Fields.ofList [("input", a), ("valid", b), ("errors", c)] =
      [("errors", c), ("input", a), ("valid", b)] := by
    simp only [Fields.ofList, List.foldl_cons, List.foldl_nil, Fields.insert_nil]
    rw [Fields.insert_past (by decide), Fields.insert_nil, Fields.insert_before (by decide)]
  have entries (entry : InputReport) : entry.toValue.sorted = .object
      [("errors", .array (entry.result.errors.map .string)), ("input", .string entry.input),
        ("valid", .bool entry.result.valid)] := by
    simp only [InputReport.toValue, Value.strings, Value.sorted, Value.sortedFields,
      sortedItems_map, ordered]
  have outer (a b c : Value) : Fields.ofList [("engine", a), ("valid", b), ("inputs", c)] =
      [("engine", a), ("inputs", c), ("valid", b)] := by
    simp only [Fields.ofList, List.foldl_cons, List.foldl_nil, Fields.insert_nil]
    rw [Fields.insert_past (by decide), Fields.insert_nil, Fields.insert_past (by decide),
      Fields.insert_before (by decide)]
  simp only [toValue, content, Value.sorted, Value.sortedFields, sortedItems_map, entries, outer]

theorem nestingOfItems_map_le {α : Type} (items : List α) {f : α → Value} {limit : Nat}
    (near : ∀ item, (f item).nesting ≤ limit) : Value.nestingOfItems (items.map f) ≤ limit := by
  induction items with
  | nil => exact Nat.zero_le _
  | cons item rest ih => exact Nat.max_le.mpr ⟨near item, ih⟩

theorem realsOfItems_map {α : Type} (items : List α) {f : α → Value}
    (none : ∀ item, (f item).reals = []) : Value.realsOfItems (items.map f) = [] := by
  induction items with
  | nil => rfl
  | cons item rest ih => rw [List.map_cons, Value.realsOfItems, none item, ih, List.append_nil]

theorem nesting_toValue (report : ValidationReport) : report.toValue.nesting ≤ 4 := by
  have errors (entry : InputReport) :
      Value.nestingOfItems (entry.result.errors.map .string) ≤ 0 :=
    nestingOfItems_map_le _ fun _ => Nat.le_refl 0
  have entries : Value.nestingOfItems (report.inputs.map InputReport.toValue) ≤ 2 := by
    refine nestingOfItems_map_le _ fun entry => ?_
    have below := errors entry
    simp only [InputReport.toValue, Value.strings, Value.nesting, Value.nestingOfFields]
    omega
  simp only [toValue, Value.nesting, Value.nestingOfFields]
  omega

theorem reals_toValue (report : ValidationReport) : report.toValue.reals = [] := by
  have entries (entry : InputReport) : entry.toValue.reals = [] := by
    have errors : Value.realsOfItems (entry.result.errors.map .string) = [] :=
      realsOfItems_map _ fun _ => rfl
    simp only [InputReport.toValue, Value.strings, Value.reals, Value.realsOfFields, errors,
      List.append_nil]
  simp only [toValue, Value.reals, Value.realsOfFields, realsOfItems_map _ entries,
    List.append_nil]

end ValidationReport

theorem Output.ended_blanks (text : String) :
    ∃ blanks, Json.Blanks blanks ∧ (ended text).toList = text.toList ++ blanks := by
  rw [ended]
  split
  · exact ⟨[], Json.blanks_nil, (List.append_nil _).symm⟩
  · refine ⟨['\n'], ?_, String.toList_append⟩
    rintro c member
    rw [List.mem_singleton.mp member]
    rfl

theorem Output.parse_validation {output : Output}
    (json : output.format = .json ∨ output.format = .jsonPretty) (report : ValidationReport) :
    Json.parse (output.validation report) = .ok report.content := by
  have exactly : ∀ x ∈ report.toValue.reals, x.ReadExactly := by
    rw [report.reals_toValue]
    exact List.forall_mem_nil _
  have near : report.toValue.nesting ≤ Json.maxNesting :=
    report.nesting_toValue.trans (by decide)
  have read : Json.readDocument (output.validation report).toList = .ok report.toValue := by
    obtain ⟨blanks, blank, text⟩ := ended_blanks (output.format.render report.toValue)
    rcases json with format | format
    all_goals
      rw [validation, if_neg (by rw [format]; decide), data, text, format]
      rw [OutputFormat.render]
    · rw [Value.compact, String.toList_ofList]
      exact Json.readDocument_compactChars exactly near blank
    · rw [Value.pretty, String.toList_ofList]
      exact Json.readDocument_prettyChars exactly near blank
  rw [Json.parse, read]
  exact congrArg Except.ok report.sorted_toValue

end Values

section Blocks

open Yaml (Pen KeyWord blanks scalarLine flagLine fieldText listLines)

def InputReport.blockLines (report : InputReport) : List Char :=
  fieldText "input" (' ' :: scalarLine 4 report.input) ++
    (blanks 2 ++ fieldText "valid" (' ' :: flagLine report.result.valid)) ++
    (blanks 2 ++ fieldText "errors" (listLines 2 (scalarLine 4) report.result.errors))

/-- A report in blocks: a dash for each input. -/
def ValidationReport.blockLines (report : ValidationReport) : List Char :=
  fieldText "engine" (' ' :: scalarLine 2 report.engine) ++
    fieldText "valid" (' ' :: flagLine report.isValid) ++
    fieldText "inputs" (listLines 0 InputReport.blockLines report.inputs)

theorem keyWord_engine : KeyWord "engine" :=
  ⟨by decide, by decide, List.all_eq_true.mp rfl, by decide⟩

theorem keyWord_valid : KeyWord "valid" :=
  ⟨by decide, by decide, List.all_eq_true.mp rfl, by decide⟩

theorem keyWord_inputs : KeyWord "inputs" :=
  ⟨by decide, by decide, List.all_eq_true.mp rfl, by decide⟩

theorem keyWord_input : KeyWord "input" :=
  ⟨by decide, by decide, List.all_eq_true.mp rfl, by decide⟩

theorem keyWord_errors : KeyWord "errors" :=
  ⟨by decide, by decide, List.all_eq_true.mp rfl, by decide⟩

theorem ended_error (s : String) (text : List Char) :
    (Pen.value (some 2) false (.string s) (Pen.dashed text 2)).Ended
      (text ++ '-' :: ' ' :: scalarLine 4 s) := by
  have written := Pen.ended_text (Nat.succ_pos 3) s (rfl : (Pen.dashed text 2).spaced = false)
  simpa [Pen.value, Pen.withinScalar] using written

theorem ended_input (report : InputReport) (text : List Char) :
    (Pen.value (some 0) false report.toValue (Pen.dashed text 0)).Ended
      (text ++ '-' :: ' ' :: report.blockLines) := by
  have input := Pen.ended_textField keyWord_input (Pen.goTo_dashed text 0) report.input
  have valid := Pen.ended_flagField keyWord_valid (input 2) report.result.valid
  have errors := Pen.ended_listField keyWord_errors (valid 2) ended_error report.result.errors
  rw [InputReport.toValue, Value.strings, Pen.value]
  simpa [InputReport.blockLines, Pen.fields, Pen.within] using errors

theorem print_report (report : ValidationReport) :
    Yaml.print report.toValue = String.ofList report.blockLines := by
  have engine := Pen.ended_textField keyWord_engine (Pen.ended_start 0) report.engine
  have valid := Pen.ended_flagField keyWord_valid (engine 0) report.isValid
  have inputs := Pen.ended_listField keyWord_inputs (valid 0) ended_input report.inputs
  refine Yaml.print_eq ?_
  rw [ValidationReport.toValue, Pen.value]
  simpa [ValidationReport.blockLines, Pen.fields, Pen.within, blanks] using inputs

end Blocks

section Reading

open Yaml Yaml.Reading Yaml.Scanner

def InputReport.fields (report : InputReport) : List Field :=
  [⟨"input", [textKind report.input], .text report.input⟩,
    ⟨"valid", [flagKind report.result.valid], .bool report.result.valid⟩,
    ⟨"errors", listKinds (fun s => [textKind s]) report.result.errors,
      .sequence (report.result.errors.map .text)⟩]

def ValidationReport.fields (report : ValidationReport) : List Field :=
  [⟨"engine", [textKind report.engine], .text report.engine⟩,
    ⟨"valid", [flagKind report.isValid], .bool report.isValid⟩,
    ⟨"inputs", listKinds (fun entry => mappingKinds entry.fields) report.inputs,
      .sequence (report.inputs.map fun entry => .ofValue entry.toValue)⟩]

theorem readsNode_input (report : InputReport) :
    ReadsNode false (mappingKinds report.fields) 2 (.ofValue report.toValue) := by
  have errors : ReadsNode true (listKinds _ report.result.errors) 1 _ :=
    readsNode_list readsNode_text report.result.errors
  have document : Document.ofValue report.toValue =
      .mapping (report.fields.map fun field => (.text field.name, field.document)) := by
    rw [InputReport.toValue, Value.strings, Document.ofValue, Document.ofFields_eq]
    simp only [List.map_cons, List.map_nil, Document.ofValue, Document.ofItems_eq, List.map_map]
    rfl
  rw [document]
  refine readsNode_mapping fun field member => ?_
  simp only [InputReport.fields, List.mem_cons, List.not_mem_nil, or_false] at member
  rcases member with rfl | rfl | rfl
  · exact (readsNode_text _).mono (Nat.zero_le 1)
  · exact (readsNode_flag _).mono (Nat.zero_le 1)
  · exact errors

theorem readsNode_report (report : ValidationReport) :
    ReadsNode false (mappingKinds report.fields) 4 (.ofValue report.toValue) := by
  have inputs : ReadsNode true (listKinds _ report.inputs) 3 _ :=
    readsNode_list readsNode_input report.inputs
  have document : Document.ofValue report.toValue =
      .mapping (report.fields.map fun field => (.text field.name, field.document)) := by
    rw [ValidationReport.toValue, Document.ofValue, Document.ofFields_eq]
    simp only [List.map_cons, List.map_nil, Document.ofValue, Document.ofItems_eq, List.map_map]
    rfl
  rw [document]
  refine readsNode_mapping fun field member => ?_
  simp only [ValidationReport.fields, List.mem_cons, List.not_mem_nil, or_false] at member
  rcases member with rfl | rfl | rfl
  · exact (readsNode_text _).mono (Nat.zero_le 3)
  · exact (readsNode_flag _).mono (Nat.zero_le 3)
  · exact inputs

theorem readsItem_input :
    ReadsItem 0 [] InputReport.blockLines fun entry => mappingKinds entry.fields := by
  intro report count rest kinds least ahead s arrived
  obtain rfl : count = 0 := Nat.le_zero.mp least
  let errors := fieldText "errors" (listLines 2 (scalarLine 4) report.result.errors) ++
    (blanks 0 ++ rest)
  let valid := fieldText "valid" (' ' :: flagLine report.result.valid) ++ (blanks 2 ++ errors)
  have first : Passes (Next true 2 (fieldText "input" (' ' :: scalarLine 4 report.input) ++
      (blanks 2 ++ valid)) [0] kinds) _ :=
    passes_textField keyWord_input (by simp) rfl (Nat.le_refl 2) (tokenAhead_key keyWord_valid _)
      report.input
  have second (kinds : List Token.Kind) : Passes (Next true 2 valid [2, 0] kinds) _ :=
    passes_flagField keyWord_valid (by simp) rfl (Nat.le_refl 2) (tokenAhead_key keyWord_errors _)
      report.result.valid
  have third (kinds : List Token.Kind) : Passes (Next true 2 errors [2, 0] kinds) _ :=
    passes_listField keyWord_errors (by simp) rfl (Nat.zero_le 2) ahead
      (readsItem_text 2 [0]) report.result.errors
  have shape : report.blockLines ++ (blanks 0 ++ rest) =
      fieldText "input" (' ' :: scalarLine 4 report.input) ++ (blanks 2 ++ valid) := by
    simp [InputReport.blockLines, valid, errors]
  rw [shape] at arrived
  obtain ⟨t, steps, next⟩ := ((first.trans (second _)).trans (third _)) s
    (arrived.blank (tokenAhead_key keyWord_input _))
  refine ⟨t, steps, ?_⟩
  have closed := next.close Nat.two_pos
  simpa [mappingKinds, InputReport.fields, Field.kinds, opened] using closed

theorem passes_report (report : ValidationReport) : ∃ kinds,
    Passes (Next true 0 report.blockLines [] []) (Next true 0 [] [0] kinds) ∧
      kinds ++ [.blockEnd] = mappingKinds report.fields := by
  let inputs := fieldText "inputs" (listLines 0 InputReport.blockLines report.inputs) ++
    (blanks 0 ++ [])
  let valid := fieldText "valid" (' ' :: flagLine report.isValid) ++ (blanks 0 ++ inputs)
  have first : Passes (Next true 0 (fieldText "engine" (' ' :: scalarLine 2 report.engine) ++
      (blanks 0 ++ valid)) [] []) _ :=
    passes_textField keyWord_engine (by simp) rfl (Nat.le_refl 0) (tokenAhead_key keyWord_valid _)
      report.engine
  have second (kinds : List Token.Kind) : Passes (Next true 0 valid [0] kinds) _ :=
    passes_flagField keyWord_valid (by simp) rfl (Nat.le_refl 0) (tokenAhead_key keyWord_inputs _)
      report.isValid
  have third (kinds : List Token.Kind) : Passes (Next true 0 inputs [0] kinds) _ :=
    passes_listField keyWord_inputs (by simp) rfl (Nat.le_refl 0) (by simp [TokenAhead])
      readsItem_input report.inputs
  have shape : report.blockLines =
      fieldText "engine" (' ' :: scalarLine 2 report.engine) ++ (blanks 0 ++ valid) := by
    simp [ValidationReport.blockLines, valid, inputs, blanks]
  rw [shape]
  refine ⟨_, (first.trans (second _)).trans (third _), ?_⟩
  simp [mappingKinds, ValidationReport.fields, Field.kinds, opened]

theorem isAllowed_inputLines (report : InputReport) :
    ∀ c ∈ report.blockLines, isAllowed c = true := by
  simp only [InputReport.blockLines, List.forall_mem_append]
  exact ⟨⟨isAllowed_textField keyWord_input _ _, fun _ => isAllowed_blanks,
      isAllowed_flagField keyWord_valid _⟩, fun _ => isAllowed_blanks,
    isAllowed_listField keyWord_errors (fun _ _ => isAllowed_scalarLine) _ _⟩

theorem isAllowed_blockLines (report : ValidationReport) :
    ∀ c ∈ report.blockLines, isAllowed c = true := by
  simp only [ValidationReport.blockLines, List.forall_mem_append]
  exact ⟨⟨isAllowed_textField keyWord_engine _ _, isAllowed_flagField keyWord_valid _⟩,
    isAllowed_listField keyWord_inputs isAllowed_inputLines _ _⟩

theorem value?_blockLines (report : ValidationReport) :
    (Content.ofText report.blockLines).value? = some report.content := by
  obtain ⟨kinds, passes, whole⟩ := passes_report report
  have ahead : TokenAhead report.blockLines := by
    rw [ValidationReport.blockLines, List.append_assoc]
    exact tokenAhead_key keyWord_engine _
  have noMark : report.blockLines.head? ≠ some '\ufeff' := by
    simp [ValidationReport.blockLines, fieldText]
  obtain ⟨tokens, stream, read⟩ :=
    TokenStream.ofText_passes (isAllowed_blockLines report) ahead noMark passes
  have known : tokens.map (·.kind) = mappingKinds report.fields ++ [.streamEnd] := by
    rw [read, ← whole, List.append_assoc]
    rfl
  rw [Content.value?_ofText stream known (readsNode_report report) (by decide),
    Document.toValue?_ofValue, report.sorted_toValue]

end Reading

/-- What a text shows of a report, in each format: lines for people, or what a reader finds. A
line break may end a text of YAML. -/
def Output.Shows (output : Output) (report : ValidationReport) (text : String) : Prop :=
  match output.format with
  | .human => text = report.lines output.color
  | .json | .jsonPretty => Json.parse text = .ok report.content
  | .yaml => ∃ body, text = Output.ended body ∧
      (Yaml.Content.ofText body.toList).value? = some report.content

theorem Output.validation_shows (output : Output) {report : ValidationReport}
    (plain : '\x1b' ∉ report.engine.toList) : output.Shows report (output.validation report) := by
  rw [Shows]
  cases format : output.format with
  | human => exact validation_human format plain
  | json => exact parse_validation (.inl format) report
  | jsonPretty => exact parse_validation (.inr format) report
  | yaml =>
    refine ⟨String.ofList report.blockLines, ?_, ?_⟩
    · rw [validation, if_neg (by rw [format]; decide), data, format, OutputFormat.render,
        print_report]
    · rw [String.toList_ofList, value?_blockLines]

end SchemaCheck
