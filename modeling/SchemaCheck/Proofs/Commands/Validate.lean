import Mathlib.Data.List.Forall2
import SchemaCheck.Commands.Program
import SchemaCheck.Proofs.Commands.Report
import SchemaCheck.Proofs.Validation.Engine

/-!
The command that validates files. It works through its inputs with one validator, which keeps its
cache and its buffers from one input to the next. What it says of an input is nevertheless what the
library says of it alone, with either engine (`InputReport.Tells`), and it says so of all inputs or
of none (`reportsOn_cases`). With that, each way in which the command can end is told by the files
that it finds (`run_cases`).
-/

namespace SchemaCheck

open Json (Value)
open CommandLine (ValidateTask)

/-- The report on an input names its path, and tells of the value that is found there what every new
validator says of it. -/
structure InputReport.Tells (settings : ValidationSettings) (look : Commands.Look) (schema : Schema)
    (path : String) (report : InputReport) : Prop where
  named : report.input = path
  validated : ∃ value, Commands.loadInput look path = .ok value ∧ ∀ engine : Engine, ∃ next,
    (Validator.create engine settings).validate schema value = some (report.result, next)

theorem ValidationReport.isValid_iff (report : ValidationReport) :
    report.isValid = true ↔ ∀ entry ∈ report.inputs, entry.result.valid = true := List.all_eq_true

theorem ValidationReport.invalidCount_eq (report : ValidationReport) :
    report.invalidCount = report.inputs.countP fun entry => !entry.result.valid :=
  List.countP_eq_length_filter.symm

theorem Engine.name_plain (engine : Engine) : '\x1b' ∉ engine.name.toList := by
  cases engine <;> decide

namespace CommandLine.ValidateTask

def announced (task : ValidateTask) (settings : Settings) (output : Output) : String :=
  if 0 < output.verbosity then output.info (task.announcement settings) else ""

section Inputs

variable (look : Commands.Look) (schema : Schema) {settings : ValidationSettings}
  {validator : Validator}

theorem reportsOn_cons (ready : validator.Ready settings .standard) {path : String} {value : Value}
    (loaded : Commands.loadInput look path = .ok value) (rest : List String) :
    ∃ report next, InputReport.Tells settings look schema path report ∧
      next.Ready settings .standard ∧
      reportsOn look schema validator (path :: rest) =
        (reportsOn look schema next rest).map (report :: ·) := by
  obtain ⟨next, validated, nextReady⟩ := ready.validate_eq schema value
  refine ⟨⟨path, Reference.validate settings .standard schema value⟩, next,
    ⟨rfl, value, loaded, fun engine => ?_⟩, nextReady, ?_⟩
  · obtain ⟨used, alone, _⟩ := (Validator.create_ready engine settings).validate_eq schema value
    exact ⟨used, alone⟩
  · rw [reportsOn, loaded]
    simp only [bind, Except.bind, validated]
    cases reportsOn look schema next rest <;> rfl

/-- Of some inputs all can be loaded, and then each is reported on; or there is a first one that
cannot, and its failure is all that comes of them. -/
theorem reportsOn_cases (ready : validator.Ready settings .standard) (paths : List String) :
    (∃ reports, reportsOn look schema validator paths = .ok reports ∧
      List.Forall₂ (InputReport.Tells settings look schema) paths reports) ∨
    ∃ before path after failure, paths = before ++ path :: after ∧
      (∀ earlier ∈ before, ∃ value, Commands.loadInput look earlier = .ok value) ∧
      Commands.loadInput look path = .error failure ∧
      reportsOn look schema validator paths = .error failure := by
  induction paths generalizing validator with
  | nil => exact .inl ⟨[], rfl, .nil⟩
  | cons path rest ih =>
    cases loaded : Commands.loadInput look path with
    | error failure =>
      have stopped : reportsOn look schema validator (path :: rest) = .error failure := by
        rw [reportsOn, loaded]
        rfl
      exact .inr ⟨[], path, rest, failure, rfl, fun _ member => (nomatch member), loaded, stopped⟩
    | ok value =>
      obtain ⟨report, next, first, nextReady, goesOn⟩ :=
        reportsOn_cons look schema ready loaded rest
      rcases ih nextReady with ⟨reports, told, tells⟩ |
        ⟨before, broken, after, failure, split, loadable, fails, stopped⟩
      · rw [told] at goesOn
        exact .inl ⟨report :: reports, goesOn, .cons first tells⟩
      · rw [stopped] at goesOn
        refine .inr ⟨path :: before, broken, after, failure, ?_, ?_, fails, goesOn⟩
        · rw [split, List.cons_append]
        · intro earlier member
          rcases List.mem_cons.mp member with rfl | later
          · exact ⟨value, loaded⟩
          · exact loadable earlier later

end Inputs

theorem reportOn_eq {task : ValidateTask} {look : Commands.Look} {schema : Schema}
    (loaded : Commands.loadSchema look task.schema = .ok schema) (settings : Settings) :
    task.reportOn settings look =
      (reportsOn look schema (.create (task.engineFor settings) (task.validationFor settings))
        task.inputs).map ({ engine := (task.engineFor settings).name, inputs := · }) := by
  rw [reportOn, loaded]
  simp only [bind, Except.bind]
  cases reportsOn look schema _ task.inputs <;> rfl

/-- The three ways in which the command ends. A schema that cannot be loaded is its failure. So is
otherwise the first input that cannot be loaded, without a report. Otherwise it reports on each
input, in their order, what the library says of it alone, with the engine, the coercion and the
depth of the command line before those of the settings. What it writes shows that report in the
format that is asked for. Then it succeeds if all inputs are valid, and if not, its failure counts
those that are not. -/
theorem run_cases (task : ValidateTask) (settings : Settings) (output : Output)
    (look : Commands.Look) :
    (∃ failure, Commands.loadSchema look task.schema = .error failure ∧
      task.run settings output look = (task.announced settings output, some failure)) ∨
    ∃ schema, Commands.loadSchema look task.schema = .ok schema ∧
      ((∃ before path after failure, task.inputs = before ++ path :: after ∧
          (∀ earlier ∈ before, ∃ value, Commands.loadInput look earlier = .ok value) ∧
          Commands.loadInput look path = .error failure ∧
          task.run settings output look = (task.announced settings output, some failure)) ∨
        ∃ report : ValidationReport,
          report.engine = (task.engine.getD settings.engine).name ∧
          List.Forall₂ (InputReport.Tells
            { coerce := settings.validation.coerce || task.coerce
              maxDepth := task.maxDepth.getD settings.validation.maxDepth } look schema)
            task.inputs report.inputs ∧
          (report.isValid = true ↔ ∀ entry ∈ report.inputs, entry.result.valid = true) ∧
          output.Shows report (output.validation report) ∧
          task.run settings output look =
            (task.announced settings output ++ output.validation report,
              if report.isValid then none
              else some (.notValid (report.inputs.countP fun entry => !entry.result.valid)
                task.inputs.length)) ∧
          (Commands.outcomeOf output (task.run settings output look)).code =
            if report.isValid then 0 else 7) := by
  cases loaded : Commands.loadSchema look task.schema with
  | error failure =>
    have stopped : task.reportOn settings look = .error failure := by
      rw [reportOn, loaded]
      rfl
    exact .inl ⟨failure, rfl, by rw [run, stopped]; rfl⟩
  | ok schema =>
    refine .inr ⟨schema, rfl, ?_⟩
    have worked := reportOn_eq loaded settings
    have ready := Validator.create_ready (task.engineFor settings) (task.validationFor settings)
    rcases reportsOn_cases look schema ready task.inputs with
      ⟨reports, told, tells⟩ | ⟨before, path, after, failure, split, loadable, fails, stopped⟩
    · rw [told] at worked
      let report : ValidationReport :=
        { engine := (task.engineFor settings).name, inputs := reports }
      have ended : task.run settings output look =
          (task.announced settings output ++ output.validation report,
            if report.isValid then none
            else some (.notValid (report.inputs.countP fun entry => !entry.result.valid)
              task.inputs.length)) := by
        rw [run, worked, ← report.invalidCount_eq, tells.length_eq]
        rfl
      have plain : '\x1b' ∉ report.engine.toList := Engine.name_plain _
      refine .inr ⟨report, rfl, tells, report.isValid_iff, output.validation_shows plain, ended, ?_⟩
      rw [ended]
      cases report.isValid <;> rfl
    · rw [stopped] at worked
      exact .inl ⟨before, path, after, failure, split, loadable, fails, by rw [run, worked]; rfl⟩

end CommandLine.ValidateTask

end SchemaCheck
