import SchemaCheck.CommandLine.Grammar

/-!
Matching a command line with a grammar. A value that follows its switch is looked at only once the
next thing is known, so a fault further left is not always the one that is told; the words behind
the name of a command belong to it and are matched before the command around is done.
-/

namespace SchemaCheck.CommandLine

inductive Source where
  | environment
  | line
deriving DecidableEq

structure Given where
  source : Source
  values : List String := []
  /-- How often it is given. -/
  times : Nat := 1
deriving DecidableEq

abbrev Inputs := List (String × Given)

/-- What a command line has been matched with: the names of the commands, outermost first, each
with what is given of it. -/
abbrev Matches := List (String × Inputs)

inductive Collector where
  | switch (switch : Switch)
  | operand (operand : Operand)

def Collector.name : Collector → String
  | switch s => s.name
  | operand o => o.name

def Collector.isOperand : Collector → Bool
  | operand _ => true
  | switch _ => false

structure State where
  inputs : Inputs := []
  pending : Option (Collector × List String) := none
  /-- Whether a switch waits for its value. -/
  waiting : Bool := false
  /-- Whether the operand has been given, if there can be only one. -/
  operandDone : Bool := false
  /-- Whether only operands follow. -/
  operandsOnly : Bool := false

namespace State

def put (s : State) (name : String) (given : Given) : State :=
  { s with inputs := (name, given) :: s.inputs.filter (·.1 != name) }

def refusal? (kind : ValueKind) (values : List String) : Option UsageError :=
  values.findSome? kind.refusal?

def putOnce (s : State) (switch : Switch) (kind : ValueKind) (values : List String) :
    Except UsageError State :=
  if values.isEmpty then .error .invalidValue
  else if (s.inputs.lookup switch.name).isSome then .error .conflict
  else
    match refusal? kind values with
    | some e => .error e
    | none => .ok (s.put switch.name { source := .line, values })

def putOperand (s : State) (operand : Operand) (values : List String) : Except UsageError State :=
  match refusal? operand.kind values with
  | some e => .error e
  | none =>
    let before := ((s.inputs.lookup operand.name).map Given.values).getD []
    .ok (s.put operand.name { source := .line, values := before ++ values })

def settle (s : State) : Except UsageError State :=
  let rest := { s with pending := none, waiting := false }
  match s.pending with
  | none => .ok rest
  | some (.switch switch, values) =>
    match switch.action with
    | .takes kind => rest.putOnce switch kind values
    | _ => .ok rest
  | some (.operand operand, values) => rest.putOperand operand values

/-- Meets a switch that takes no value. `path` names the command that it belongs to. -/
def meet (path : String) (s : State) (switch : Switch) : Except UsageError State := do
  let s ← s.settle
  match switch.action with
  | .takes kind => s.putOnce switch kind []
  | .flag =>
    if (s.inputs.lookup switch.name).isSome then throw .conflict
    else return s.put switch.name { source := .line }
  | .count =>
    let before := ((s.inputs.lookup switch.name).map Given.times).getD 0
    return s.put switch.name { source := .line, times := before + 1 }
  | .showsHelp => throw .help
  | .showsVersion => throw (.version path)

def meetTaking (s : State) (switch : Switch) (kind : ValueKind) (attached : Option String) :
    Except UsageError State := do
  let s ← s.settle
  match attached with
  | some value => s.putOnce switch kind [value]
  | none => return { s with pending := some (.switch switch, []), waiting := true }

end State

/-- A word that looks like a switch may be a value after all. -/
inductive Reading where
  | state (s : State)
  | value

def hyphenAllowed (command : Command) (s : State) : Bool :=
  !s.operandDone && command.operand.any Operand.allowsHyphen

def splitLong (body : List Char) : String × Option String :=
  match body.dropWhile (· != '=') with
  | [] => (String.ofList body, none)
  | _ :: value => (String.ofList (body.takeWhile (· != '=')), some (String.ofList value))

def readLong (path : String) (command : Command) (s : State) (body : List Char) :
    Except UsageError Reading :=
  let (name, attached) := splitLong body
  match command.switch? name with
  | some switch =>
    match switch.action, attached with
    | .takes kind, attached => (s.meetTaking switch kind attached).map .state
    | _, some _ => .error .unexpectedValue
    | _, none => (s.meet path switch).map .state
  | none => if hyphenAllowed command s then .ok .value else .error .unknownArgument

/-- Reads letters behind one hyphen: flags, up to a switch that takes the rest for its value. -/
def readLetters (path : String) (command : Command) : List Char → State → Except UsageError State
  | [], s => .ok s
  | c :: rest, s =>
    match command.letter? c with
    | none => .error .unknownArgument
    | some switch =>
      match switch.action, rest with
      | .takes kind, [] => s.meetTaking switch kind none
      | .takes kind, '=' :: value => s.meetTaking switch kind (some (String.ofList value))
      | .takes kind, value => s.meetTaking switch kind (some (String.ofList value))
      | _, rest => do readLetters path command rest (← s.meet path switch)

def readShort (path : String) (command : Command) (s : State) (body : List Char) :
    Except UsageError Reading :=
  if hyphenAllowed command s && body.any fun c => (command.letter? c).isNone then .ok .value
  else (readLetters path command body s).map .state

def readWord (path : String) (command : Command) (s : State) (word : String) :
    Except UsageError Reading :=
  match word.toList with
  | ['-', '-'] => .ok (.state { s with operandsOnly := true, waiting := false })
  | '-' :: '-' :: body => readLong path command s body
  | '-' :: c :: body => readShort path command s (c :: body)
  | _ => .ok .value

def misplaced (command : Command) (s : State) (word : String) : UsageError :=
  if s.operandsOnly && command.knows word then .unknownArgument
  else if command.commands.isEmpty then .unknownArgument
  else .unknownCommand

def takeValue (command : Command) (s : State) (word : String) : Except UsageError State :=
  match s.waiting, s.pending with
  | true, some (collector, values) =>
    .ok { s with pending := some (collector, values ++ [word]), waiting := false }
  | _, pending =>
    match command.operand with
    | some operand =>
      if s.operandDone then .error (misplaced command s word)
      else
        match pending with
        | some (.operand same, values) =>
          .ok { s with pending := some (.operand same, values ++ [word]) }
        | _ => do
          let s ← s.settle
          return { s with pending := some (.operand operand, [word]), operandDone := !operand.many }
    | none => .error (misplaced command s word)

def useEnvironment (environment : String → Option String) :
    List Switch → State → Except UsageError State
  | [], s => .ok s
  | switch :: rest, s =>
    match switch.fallback.bind environment, switch.action, s.inputs.lookup switch.name with
    | some value, .takes kind, none =>
      match kind.refusal? value with
      | some e => .error e
      | none =>
        useEnvironment environment rest
          (s.put switch.name { source := .environment, values := [value] })
    | _, _, _ => useEnvironment environment rest s

def hasConflict (command : Command) (inputs : Inputs) : Bool :=
  command.switches.any fun switch =>
    (inputs.lookup switch.name).isSome &&
      switch.conflict.any fun other => (inputs.lookup other).isSome

def lacksRequired (command : Command) (inputs : Inputs) : Bool :=
  (command.switches.any fun switch => switch.required && (inputs.lookup switch.name).isNone) ||
    command.operand.any fun operand => (inputs.lookup operand.name).isNone

/-- Ends the words of a command; `inner` is what has been matched of a command within. -/
def finish (environment : String → Option String) (command : Command) (s : State)
    (inner : Option Matches) : Except UsageError Matches := do
  let s ← s.settle
  let s ← useEnvironment environment command.switches s
  if !command.commands.isEmpty && inner.isNone then
    throw (if s.inputs.isEmpty then .nothingGiven else .missingCommand)
  if hasConflict command s.inputs then throw .conflict
  if lacksRequired command s.inputs then throw .missingArgument
  return (command.name, s.inputs) :: inner.getD []

def helpFor : Command → List String → UsageError
  | _, [] => .help
  | command, word :: rest =>
    match command.command? word with
    | some inner => helpFor inner rest
    | none =>
      if word = Command.helpName && !command.commands.isEmpty && rest.isEmpty then .help
      else .unknownCommand

/-- Matches words with a command. `path` is the name of the command with those around it. -/
def matchWords (environment : String → Option String) (path : String) (command : Command) :
    State → List String → Except UsageError Matches
  | s, [] => finish environment command s none
  | s, word :: rest =>
    if s.operandsOnly then do matchWords environment path command (← takeValue command s word) rest
    else if !s.waiting && !(s.pending.any (·.1.isOperand)) && command.knows word then
      match command.command? word with
      | none => .error (helpFor command rest)
      | some inner => do
        let found ← matchWords environment (path ++ "-" ++ inner.name) inner {} rest
        finish environment command s (some found)
    else do
      match ← readWord path command s word with
      | .state s => matchWords environment path command s rest
      | .value => matchWords environment path command (← takeValue command s word) rest
termination_by _ words => words.length

def Command.matchLine (command : Command) (environment : String → Option String)
    (words : List String) : Except UsageError Matches :=
  matchWords environment command.name command {} words

/-- What is given of a switch that every command has: the innermost one counts, but what is in the
environment only where nothing is on the command line. -/
def Matches.given? (found : Matches) (name : String) : Option Given :=
  found.foldl (fun best level =>
    match best, level.2.lookup name with
    | some before, some given =>
      if before.source = .line ∧ given.source = .environment then some before else some given
    | best, none => best
    | none, given => given) none

end SchemaCheck.CommandLine
