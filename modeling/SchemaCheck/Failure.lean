import SchemaCheck.Schema.Load
import SchemaCheck.Text.Paint
import SchemaCheck.Validation.Input

/-!
Why the program does not do what it is asked for. Each cause has a code, with which the program
ends.
-/

namespace SchemaCheck

inductive Failure where
  /-- The system refuses to read or write. -/
  | system (reason : String)
  /-- A schema or an input is not what it should be; the text says why. -/
  | core (reason : String)
  | fileNotFound (path : String)
  | invalidFormat (path expected : String)
  | settings (reason : String)
  | invalidArguments (reason : String)
  | notValid (invalid total : Nat)
  | notCoerced (value target : String)
  | json (reason : String)
  | yaml (reason : String)
  | other (message : String)
deriving DecidableEq

namespace Failure

def message : Failure → String
  | system reason => s!"IO error: {reason}"
  | core reason => s!"Core error: {reason}"
  | fileNotFound path => s!"File not found: {path}"
  | invalidFormat path expected => s!"Invalid file format for {path}: expected {expected} format"
  | settings reason => s!"Configuration error: {reason}"
  | invalidArguments reason => s!"Invalid arguments: {reason}"
  | notValid invalid total => s!"{invalid} of {total} input(s) failed validation"
  | notCoerced value target => s!"Cannot coerce {value} to {target}"
  | json reason => s!"JSON error: {reason}"
  | yaml reason => s!"YAML error: {reason}"
  | other message => message

def exitCode : Failure → Nat
  | system _ => 1
  | core _ => 2
  | fileNotFound _ => 3
  | invalidFormat _ _ => 4
  | settings _ => 5
  | invalidArguments _ => 6
  | notValid _ _ => 7
  | notCoerced _ _ => 8
  | json _ => 12
  | yaml _ => 13
  | other _ => 99

def showsHelp : Failure → Bool
  | invalidArguments _ => true
  | _ => false

def within (context : String) (failure : Failure) : Failure :=
  other s!"{context}: {failure.message}"

def render (color : Bool) (failure : Failure) : String :=
  (if color then Text.Paint.red.bold.apply "Error:" else "Error:") ++ " " ++ failure.message

def report (color : Bool) (failure : Failure) : String :=
  failure.render color ++ "\n" ++
    if failure.showsHelp then "\nFor more information, try '--help'\n" else ""

end Failure

end SchemaCheck
