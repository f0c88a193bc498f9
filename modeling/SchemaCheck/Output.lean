import SchemaCheck.Report
import SchemaCheck.Text.Blank
import SchemaCheck.Text.Paint
import SchemaCheck.Yaml.Printer

/-!
What is written for the user. Remarks, headings and tables are for people only; values and reports
come in every format and end with exactly one line break.
-/

namespace SchemaCheck

open Json (Value)
open Text (Paint)

inductive OutputFormat where
  | human
  | json
  | yaml
  | jsonPretty
deriving DecidableEq

namespace OutputFormat

def all : List OutputFormat := [human, json, yaml, jsonPretty]

def name : OutputFormat → String
  | human => "human"
  | json => "json"
  | yaml => "yaml"
  | jsonPretty => "json-pretty"

def ofKeyword? (keyword : String) : Option OutputFormat := all.find? (·.name == keyword)

def ofName? (text : String) : Option OutputFormat :=
  ofKeyword? (String.ofList (Text.asciiLower text.toList))

def render (format : OutputFormat) (value : Value) : String :=
  match format with
  | human | jsonPretty => value.pretty
  | json => value.compact
  | yaml => Yaml.print value

end OutputFormat

structure Output where
  format : OutputFormat := .human
  color : Bool := false
  quiet : Bool := false
  verbosity : Nat := 0
deriving DecidableEq

namespace Output

def line (text : String) : String := text ++ "\n"

/-- The text with a line break at its end, unless it has one. -/
def ended (text : String) : String := if text.endsWith "\n" then text else line text

def paint (output : Output) (paint : Paint) (text : String) : String :=
  if output.color then paint.apply text else text

def remarks (output : Output) : Bool := !output.quiet && output.format = .human

def info (output : Output) (message : String) : String :=
  if !output.remarks then ""
  else if output.color then line (Paint.blue.apply "ℹ" ++ " " ++ message)
  else line ("INFO: " ++ message)

def success (output : Output) (message : String) : String :=
  if !output.remarks then "" else line (output.paint .green message)

/-- A warning, which is written even where remarks are not wanted. -/
def warning (output : Output) (message : String) : String :=
  if output.format ≠ .human then ""
  else if output.color then line (Paint.yellow.apply message)
  else line ("WARNING: " ++ message)

def heading (output : Output) (title : String) : String :=
  if !output.remarks then ""
  else if output.color then "\n" ++ line (Paint.brightBlue.apply s!"═══ {title} ═══")
  else "\n" ++ line s!"=== {title} ==="

def data (output : Output) (value : Value) : String := ended (output.format.render value)

def inputLines (output : Output) (report : InputReport) : List String :=
  if report.result.valid then [output.paint .green "✓" ++ " " ++ report.input]
  else
    (output.paint .red "✗" ++ " " ++ report.input ++ " " ++
        output.paint .dimmed report.countPhrase) ::
      report.result.errors.map fun error => "  " ++ output.paint .red "•" ++ " " ++ error

def validation (output : Output) (report : ValidationReport) : String :=
  if output.format = .human then
    let verdict : Paint := if report.isValid then .green else .red
    let summary := output.paint verdict.bold report.summary
    let lines := report.inputs.flatMap output.inputLines
    String.join (lines.map line) ++ if output.color then line summary else ended summary
  else output.data report.toValue

def coercion (output : Output) (report : CoercionReport) : String :=
  if output.format = .human then ended report.plainText else output.data report.toValue

def columnWidths (headers : List String) (rows : List (List String)) : List Nat :=
  headers.zipIdx.map fun (header, i) =>
    rows.foldl (fun width row => max width ((row[i]?.map String.length).getD 0)) header.length

/-- A row of a table; cells beyond the last column are as wide as they are. -/
def row (widths : List Nat) (cells : List String) : String :=
  let padded := cells.zipIdx.map fun (cell, i) =>
    cell ++ String.ofList (List.replicate ((widths.getD i 0) - cell.length) ' ')
  String.ofList (Text.trimEnd (" │ ".intercalate padded).toList)

def ruler (widths : List Nat) : String :=
  "─┼─".intercalate (widths.map fun width => String.ofList (List.replicate width '─'))

def table (output : Output) (headers : List String) (rows : List (List String)) : String :=
  if !output.remarks then ""
  else
    let widths := columnWidths headers rows
    line (output.paint .strong (row widths headers)) ++ line (ruler widths) ++
      String.join (rows.map fun cells => line (row widths cells))

end Output

end SchemaCheck
