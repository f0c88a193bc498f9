import SchemaCheck.Commands.Program

/-!
The program on a machine: it looks at the files it needs, does what the command line asks for,
writes what there is to write, and ends with the code.
-/

namespace SchemaCheck.Commands

open CommandLine (Request)

def refusal : IO.Error → String
  | .noFileOrDirectory .. => SystemError.notFound
  | .inappropriateType .. => SystemError.isDirectory
  | e => toString e

def entryAt (path : String) : IO FileEntry := do
  try
    match String.fromUTF8? (← IO.FS.readBinFile path) with
    | some content => return .text content
    | none => return .unreadable SystemError.notText
  catch e =>
    match e with
    | .noFileOrDirectory .. => return .missing
    | e => return .unreadable (refusal e)

def saveAt (path content : String) : IO (Except String Unit) := do
  try
    if let some parent := FilePath.parent? path then IO.FS.createDirAll parent
    IO.FS.writeFile path content
    return .ok ()
  catch e => return .error (refusal e)

def surroundingsFor (request : Request) (environment : String → Option String) :
    IO Surroundings := do
  let entries ← (pathsFor request environment).mapM fun path => return (path, ← entryAt path)
  return {
    look := fun path => (entries.lookup path).getD .missing
    environment
    terminal := ← (← IO.getStdout).isTty }

def leave (outcome : Outcome) : IO UInt32 := do
  (← IO.getStdout).putStr outcome.out
  (← IO.getStderr).putStr outcome.err
  return .ofNat outcome.code

def carryOut : Plan → IO UInt32
  | .finish outcome => leave outcome
  | .save path content next => do leave (next (← saveAt path content))

end SchemaCheck.Commands

open SchemaCheck Commands in
def main (words : List String) : IO UInt32 := do
  let values ← variableNames.mapM fun name => return (name, ← IO.getEnv name)
  let environment := fun name => (values.lookup name).join
  match CommandLine.Request.read environment words with
  | .error e => leave (usageOutcome e)
  | .ok request => carryOut (run request (← surroundingsFor request environment))
