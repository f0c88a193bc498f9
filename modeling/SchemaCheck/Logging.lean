import SchemaCheck.Settings
import SchemaCheck.Unicode.Lowercase

/-!
What is logged and how. The verbosity gives the start; the settings file and then the environment
change it.
-/

namespace SchemaCheck

open Json (Value)

inductive LogFormat where
  | compact
  | full
  | json
deriving DecidableEq

namespace LogFormat

def all : List LogFormat := [compact, full, json]

def name : LogFormat → String
  | compact => "compact"
  | full => "full"
  | json => "json"

structure Unknown where
  name : String
deriving DecidableEq

def Unknown.message (e : Unknown) : String := s!"unknown log format '{e.name}'"

def ofName (text : String) : Except Unknown LogFormat :=
  let lower := Unicode.lower text
  match all.find? (·.name == lower) with
  | some format => .ok format
  | none => .error ⟨lower⟩

def toValue (format : LogFormat) : Value := .string format.name

end LogFormat

structure LogPlan where
  level : String := "warn"
  format : LogFormat := .compact
  /-- Whether log lines may be in colour. -/
  console : Bool := true
  threadIds : Bool := false
  sourceLocation : Bool := false
  /-- Whether the end of a stretch of work is logged with the time it took. -/
  spanEvents : Bool := false
deriving DecidableEq

namespace LogPlan

def ofVerbosity : Nat → LogPlan
  | 0 => {}
  | 1 => { level := "info" }
  | 2 => { level := "debug", sourceLocation := true }
  | _ =>
    { level := "trace", format := .full, sourceLocation := true, threadIds := true
      spanEvents := true }

def withFormat (plan : LogPlan) (name : String) : LogPlan :=
  match LogFormat.ofName name with
  | .ok format => { plan with format }
  | .error _ => plan

/-- Takes over the settings of a file; its level only where no verbosity is asked for. -/
def withFile (plan : LogPlan) (verbosity : Nat) (file : LogSettings) : LogPlan :=
  let plan := if verbosity = 0 then { plan with level := file.level.getD plan.level } else plan
  match file.format with
  | some name => plan.withFormat name
  | none => plan

def withEnvironment (plan : LogPlan) (environment : String → Option String) : LogPlan :=
  let plan := { plan with level := (environment "RUST_LOG").getD plan.level }
  let plan :=
    match environment "CONFORM_LOG_FORMAT" with
    | some name => plan.withFormat name
    | none => plan
  match environment "CONFORM_LOG_CONSOLE" with
  | some text => { plan with console := Unicode.lower text == "true" || text == "1" }
  | none => plan

def toValue (plan : LogPlan) : Value :=
  .object
    [("level", .string plan.level), ("format", plan.format.toValue),
      ("console", .bool plan.console), ("thread_ids", .bool plan.threadIds),
      ("source_location", .bool plan.sourceLocation), ("span_events", .bool plan.spanEvents)]

end LogPlan

end SchemaCheck
