import SchemaCheck.Number.Power
import SchemaCheck.Text.Ascii
import SchemaCheck.Text.Digits

/-!
The grammar of command lines: commands within commands, each with switches and operands. A switch is
written with one hyphen and a letter or with two and its name; its value, if it takes one, follows
or is attached to it. An operand is a value that stands on its own.
-/

namespace SchemaCheck.CommandLine

inductive UsageError where
  | invalidValue
  | unreadableValue
  | unexpectedValue
  | unknownArgument
  | unknownCommand
  | missingCommand
  | missingArgument
  | conflict
  | help
  /-- Nothing is given at all, so the help is shown. -/
  | nothingGiven
  /-- The version is shown, under the name of the command. -/
  | version (command : String)
deriving DecidableEq

def UsageError.message : UsageError → String
  | invalidValue => "a value is not allowed"
  | unreadableValue => "a value is not a number"
  | unexpectedValue => "a value is given where none is taken"
  | unknownArgument => "an argument is not known"
  | unknownCommand => "the command is not known"
  | missingCommand => "a command is missing"
  | missingArgument => "an argument that must be given is missing"
  | conflict => "arguments cannot be used together"
  | help | nothingGiven => "a command is needed"
  | version command => s!"the version of {command} is wanted"

inductive ValueKind where
  | path
  | text
  | number
  | oneOf (names : List String)
deriving DecidableEq

def ValueKind.refusal? (kind : ValueKind) (value : String) : Option UsageError :=
  match kind with
  | path => if value.isEmpty then some .invalidValue else none
  | text => none
  | number =>
    if (Text.unsigned? value.toList).any (· < wordBound) then none else some .unreadableValue
  | oneOf names => if names.contains value then none else some .invalidValue

inductive Action where
  /-- Takes a value; it may be given once. -/
  | takes (kind : ValueKind)
  /-- May be given once. -/
  | flag
  /-- Counts how often it is given. -/
  | count
  | showsHelp
  | showsVersion
deriving DecidableEq

structure Switch where
  name : String
  letter : Option Char := none
  action : Action
  /-- The variable of the environment that stands in for it. -/
  fallback : Option String := none
  required : Bool := false
  /-- A switch that must not be given beside it. -/
  conflict : Option String := none

structure Operand where
  name : String
  kind : ValueKind
  /-- Whether more than one may be given. -/
  many : Bool := false
  /-- Whether it may look like a switch. -/
  allowsHyphen : Bool := false

inductive Command where
  | mk (name : String) (switches : List Switch) (operand : Option Operand)
    (commands : List Command)

namespace Command

def name : Command → String
  | mk name _ _ _ => name

def switches : Command → List Switch
  | mk _ switches _ _ => switches

def operand : Command → Option Operand
  | mk _ _ operand _ => operand

def commands : Command → List Command
  | mk _ _ _ commands => commands

def helpName : String := "help"

def command? (command : Command) (name : String) : Option Command :=
  command.commands.find? (·.name == name)

def knows (command : Command) (word : String) : Bool :=
  !command.commands.isEmpty && (word == helpName || (command.command? word).isSome)

def switch? (command : Command) (name : String) : Option Switch :=
  command.switches.find? (·.name == name)

def letter? (command : Command) (letter : Char) : Option Switch :=
  command.switches.find? (·.letter == some letter)

end Command

end SchemaCheck.CommandLine
