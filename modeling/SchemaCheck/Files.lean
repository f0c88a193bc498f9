/-!
Files as the program sees them: what is found under a path, and a tree of files in memory that
answers as a file system does.
-/

namespace SchemaCheck

inductive FileEntry where
  | missing
  | text (content : String)
  /-- Something that is there but cannot be read as text. -/
  | unreadable (reason : String)
deriving DecidableEq

namespace FileEntry

def isThere : FileEntry → Bool
  | missing => false
  | _ => true

end FileEntry

def SystemError.isDirectory : String := "Is a directory (os error 21)"

def SystemError.notDirectory : String := "Not a directory (os error 20)"

def SystemError.exists : String := "File exists (os error 17)"

def SystemError.notFound : String := "No such file or directory (os error 2)"

def SystemError.notText : String := "stream did not contain valid UTF-8"

namespace FilePath

def steps (path : String) : List String :=
  (path.splitOn "/").filter fun step => step != "" && step != "."

/-- The last step of a path, unless it leads upwards. -/
def fileName? (path : String) : Option String :=
  (steps path).getLast?.filter (· != "..")

/-- What stands behind the last point of the file name, if there is something in front of it. -/
def fileExtension? (path : String) : Option String := do
  let name ← fileName? path
  let letters := name.toList.reverse
  let behind := letters.takeWhile (· != '.')
  match letters.dropWhile (· != '.') with
  | '.' :: _ :: _ => some (String.ofList behind.reverse)
  | _ => none

def isYaml (path : String) : Bool :=
  match fileExtension? path with
  | some kind => kind == "yaml" || kind == "yml"
  | none => false

def inside (directory name : String) : String :=
  if directory.isEmpty || directory.endsWith "/" then directory ++ name
  else directory ++ "/" ++ name

/-- The directory of a path without the last step; nothing if there is none to name. -/
def parent? (path : String) : Option String :=
  let letters := path.toList.reverse.dropWhile (· == '/')
  let rest := (letters.dropWhile (· != '/')).dropWhile (· == '/')
  if rest.isEmpty then none else some (String.ofList rest.reverse)

end FilePath

structure FileTree where
  /-- The full path of the top, from which other paths start. -/
  top : String := "/"
  /-- The files by their steps from the top. -/
  files : List (List String × String)
  /-- The directories that hold no file. -/
  directories : List (List String) := []

namespace FileTree

/-- A path as it is seen from the top; nothing for one that leads elsewhere. -/
def fromTop? (tree : FileTree) (path : String) : Option String :=
  let letters := path.toList
  if tree.top.toList.isPrefixOf letters then
    match letters.drop tree.top.length with
    | [] => some "."
    | '/' :: rest => some (String.ofList ('.' :: '/' :: rest))
    | _ => none
  else if letters.head? == some '/' then none
  else some path

def hasDirectory (tree : FileTree) (steps : List String) : Bool :=
  steps.isEmpty || tree.directories.any (steps.isPrefixOf ·) ||
    tree.files.any fun file => steps.isPrefixOf file.1 && file.1 != steps

def file? (tree : FileTree) (steps : List String) : Option String := tree.files.lookup steps

/-- Goes some steps on from a directory. Every step but the last must lead to a directory. -/
def walk (tree : FileTree) : List String → List String → Except String (List String)
  | here, [] => .ok here
  | here, step :: rest =>
    let next := if step = ".." then here.dropLast else here ++ [step]
    if rest.isEmpty || tree.hasDirectory next then walk tree next rest
    else if (tree.file? next).isSome then .error SystemError.notDirectory
    else .error SystemError.notFound

def asksDirectory (path : String) : Bool := path.endsWith "/" || path.endsWith "/."

def lookFromTop (tree : FileTree) (path : String) : FileEntry :=
  match tree.walk [] (FilePath.steps path) with
  | .error _ => .missing
  | .ok steps =>
    if path.isEmpty then .missing
    else if tree.hasDirectory steps then .unreadable SystemError.isDirectory
    else
      match tree.file? steps with
      | some content => if asksDirectory path then .missing else .text content
      | none => .missing

def look (tree : FileTree) (path : String) : FileEntry :=
  match tree.fromTop? path with
  | some path => tree.lookFromTop path
  | none => .missing

def makeDirectory (tree : FileTree) (steps : List String) : Except String FileTree :=
  match tree.walk [] steps with
  | .error reason => .error reason
  | .ok steps =>
    if tree.hasDirectory steps || (tree.file? steps).isSome then .error SystemError.exists
    else .ok { tree with directories := steps :: tree.directories }

def makeDirectories (tree : FileTree) : List (List String) → Except String FileTree
  | [] => .ok tree
  | steps :: above =>
    if tree.hasDirectory steps then .ok tree
    else
      match tree.makeDirectory steps with
      | .ok tree => .ok tree
      | .error reason =>
        if reason ≠ SystemError.notFound then .error reason
        else do
          let tree ← makeDirectories tree above
          tree.makeDirectory steps

def chain (steps : List String) : List (List String) :=
  (List.range steps.length).map fun k => steps.take (steps.length - k)

/-- Puts a text under a path that starts at the top; its directory must be there. -/
def write (tree : FileTree) (path content : String) : Except String FileTree :=
  match tree.walk [] (FilePath.steps path) with
  | .error reason => .error reason
  | .ok steps =>
    if tree.hasDirectory steps then .error SystemError.isDirectory
    else if asksDirectory path then
      .error (if (tree.file? steps).isSome then SystemError.notDirectory
        else SystemError.isDirectory)
    else .ok { tree with files := (steps, content) :: tree.files.filter (·.1 != steps) }

def save (tree : FileTree) (path content : String) : Except String FileTree := do
  match tree.fromTop? path with
  | none => .error SystemError.notFound
  | some path =>
    let tree ←
      match FilePath.parent? path with
      | none => .ok tree
      | some parent => tree.makeDirectories (chain (FilePath.steps parent))
    tree.write path content

end FileTree

end SchemaCheck
