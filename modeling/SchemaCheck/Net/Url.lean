import SchemaCheck.Net.Host

/-!
Web addresses with a host. A text is read as web browsers do: white space at its ends and line
breaks within it do not count, what may not stand in a part is percent-encoded, and dots in the
path are resolved.
-/

namespace SchemaCheck.Net

/-- A web address in canonical form. A port is given only where it is not the usual one. -/
structure Url where
  scheme : List Char
  username : List Char
  password : Option (List Char)
  host : Host
  port : Option Nat
  path : List Char
  query : Option (List Char)
  fragment : Option (List Char)
deriving DecidableEq

namespace Url

inductive SchemeKind where
  | web
  | file
  | other
deriving DecidableEq

namespace SchemeKind

def ofScheme (scheme : String) : SchemeKind :=
  match scheme with
  | "http" | "https" | "ws" | "wss" | "ftp" => web
  | "file" => file
  | _ => other

def isSpecial (kind : SchemeKind) : Bool := kind != other

def isSlash (kind : SchemeKind) (c : Char) : Bool := c == '/' || (kind.isSpecial && c == '\\')

def endsAuthority (kind : SchemeKind) (c : Char) : Bool :=
  kind.isSlash c || c == '?' || c == '#'

end SchemeKind

def usualPort? (scheme : String) : Option Nat :=
  match scheme with
  | "http" | "ws" => some 80
  | "https" | "wss" => some 443
  | "ftp" => some 21
  | _ => none

section Sets

open Percent

def inFragmentSet (c : Char) : Bool := isControl c || " \"<>`".toList.contains c

def inPathSet (c : Char) : Bool := inFragmentSet c || "#?\x7b\x7d".toList.contains c

def inUserSet (c : Char) : Bool := inPathSet c || "/:;=@[\\]^|".toList.contains c

def inQuerySet (kind : SchemeKind) (c : Char) : Bool :=
  isControl c || " \"#<>".toList.contains c || (kind.isSpecial && c == '\'')

end Sets

def isOuter (c : Char) : Bool := c.toNat ≤ 0x20

def isLineBreak (c : Char) : Bool := c == '\t' || c == '\n' || c == '\r'

def relevant (text : List Char) : List Char :=
  (((text.dropWhile isOuter).reverse.dropWhile isOuter).reverse).filter (!isLineBreak ·)

def isSchemeChar (c : Char) : Bool := c.isAlphanum || c == '+' || c == '-' || c == '.'

def splitScheme? (text : List Char) : Option (List Char × List Char) :=
  if text.head?.any Char.isAlpha then
    match text.dropWhile isSchemeChar with
    | ':' :: rest => some (Text.asciiLower (text.takeWhile isSchemeChar), rest)
    | _ => none
  else none

def splitLast? (c : Char) (text : List Char) : Option (List Char × List Char) :=
  let behind := text.reverse.takeWhile (· != c)
  if behind.length = text.length then none
  else some (text.take (text.length - behind.length - 1), behind.reverse)

/-- A user's name and password, both encoded; an empty password is none. -/
structure User where
  name : List Char := []
  password : Option (List Char) := none

def User.ofText (text : List Char) : User :=
  let name := text.takeWhile (· != ':')
  let password := (text.drop (name.length + 1))
  { name := Percent.encode inUserSet name
    password := if password.isEmpty then none else some (Percent.encode inUserSet password) }

def splitUser (kind : SchemeKind) (text : List Char) : User × List Char :=
  let authority := text.takeWhile (!kind.endsAuthority ·)
  match splitLast? '@' authority with
  | none => ({}, text)
  | some (user, _) => (.ofText user, text.drop (user.length + 1))

/-- The text of the host, which ends at a colon outside brackets. -/
def hostText (kind : SchemeKind) (bracketed : Bool) : List Char → List Char
  | [] => []
  | c :: rest =>
    if (c == ':' && !bracketed) || kind.endsAuthority c then []
    else
      c :: hostText kind (if c = '[' then true else if c = ']' then false else bracketed) rest

def splitPort? : List Char → Option (Option Nat × List Char)
  | ':' :: text =>
    let digits := text.takeWhile Char.isDigit
    let rest := text.dropWhile Char.isDigit
    let n := Text.numeral digits
    if 65535 < n || rest.head?.any (!"/\\?#".toList.contains ·) then none
    else some (if digits.isEmpty then none else some n, rest)
  | text => some (none, text)

section Path

def isDrive : List Char → Bool
  | [c, d] => c.isAlpha && (d == ':' || d == '|')
  | _ => false

/-- Whether a segment of a path names a drive, perhaps with more behind a backslash. -/
def startsWithDrive (segment : List Char) : Bool :=
  isDrive (segment.take 2) && (segment.drop 2).head?.all ("\\?#".toList.contains ·)

def plainDots : List Char → List Char
  | '%' :: '2' :: 'e' :: rest => '.' :: plainDots rest
  | '%' :: '2' :: 'E' :: rest => '.' :: plainDots rest
  | c :: rest => c :: plainDots rest
  | [] => []

def segments (kind : SchemeKind) : List Char → List (List Char)
  | [] => [[]]
  | c :: rest =>
    if kind.isSlash c then [] :: segments kind rest
    else
      match segments kind rest with
      | [] => [[c]]
      | segment :: more => (c :: segment) :: more

/-- Drops the last of the segments, the last one first, unless it names a drive. -/
def dropSegment : List (List Char) → List (List Char)
  | [] => []
  | segment :: rest => if startsWithDrive segment then segment :: rest else rest

/-- The segments without dots: `done` holds those in front, the last one first. -/
def resolve (done : List (List Char)) : List (List Char) → List (List Char)
  | [] => done.reverse
  | segment :: rest =>
    let encoded := Percent.encode inPathSet segment
    let finish := fun done => if rest.isEmpty then ([] :: done).reverse else resolve done rest
    if plainDots encoded = ['.', '.'] then finish (dropSegment done)
    else if plainDots encoded = ['.'] then finish done
    else resolve (encoded :: done) rest

def joinSegments (segments : List (List Char)) : List Char := segments.flatMap ('/' :: ·)

/-- The path of a text, which another scheme may leave empty. -/
def pathOf (kind : SchemeKind) : List Char → List Char
  | [] => if kind.isSpecial then ['/'] else []
  | c :: rest =>
    joinSegments (resolve [] (segments kind (if kind.isSlash c then rest else c :: rest)))

def trimSlashes (path : List Char) : List Char := '/' :: path.dropWhile (· == '/')

end Path

structure Tail where
  path : List Char
  query : Option (List Char)
  fragment : Option (List Char)

def Tail.ofText (kind : SchemeKind) (text : List Char) : Tail :=
  let beforeFragment := text.takeWhile (· != '#')
  let beforeQuery := beforeFragment.takeWhile (· != '?')
  let part (inSet : Char → Bool) (whole front : List Char) : Option (List Char) :=
    if front.length = whole.length then none
    else some (Percent.encode inSet (whole.drop (front.length + 1)))
  { path := pathOf kind beforeQuery
    query := part (inQuerySet kind) beforeFragment beforeQuery
    fragment := part inFragmentSet text beforeFragment }

def ofAuthority? (kind : SchemeKind) (scheme text : List Char) : Option Url := do
  let (user, text) := splitUser kind text
  let written := hostText kind false text
  let host ← if kind.isSpecial then Host.ofText? written else Host.ofOpaque? written
  let (port, rest) ← splitPort? (text.drop written.length)
  let tail := Tail.ofText kind rest
  return {
    scheme
    username := user.name
    password := user.password
    host
    port := if port = usualPort? (String.ofList scheme) then none else port
    path := tail.path
    query := tail.query
    fragment := tail.fragment }

def ofFile? (scheme text : List Char) : Option Url := do
  let written := text.takeWhile (!SchemeKind.file.endsAuthority ·)
  if written.isEmpty || isDrive written then none
  else
    let host ← Host.ofText? written
    let tail := Tail.ofText .file (text.drop written.length)
    let onDrive := isDrive ((tail.path.drop 1).takeWhile (· != '/'))
    if host = .name "localhost".toList ∨ onDrive then none
    else
      return {
        scheme
        username := []
        password := none
        host
        port := none
        path := trimSlashes tail.path
        query := tail.query
        fragment := tail.fragment }

/-- The address that a text stands for, if it has a host. -/
def ofText? (text : List Char) : Option Url := do
  let (scheme, rest) ← splitScheme? (relevant text)
  let kind := SchemeKind.ofScheme (String.ofList scheme)
  match kind with
  | .web => ofAuthority? kind scheme (rest.dropWhile kind.isSlash)
  | .file =>
    match rest with
    | c :: d :: rest => if kind.isSlash c && kind.isSlash d then ofFile? scheme rest else none
    | _ => none
  | .other =>
    match rest with
    | '/' :: '/' :: rest => ofAuthority? kind scheme rest
    | _ => none

def userText (u : Url) : List Char :=
  let password := (u.password.map (':' :: ·)).getD []
  if u.username.isEmpty && password.isEmpty then [] else u.username ++ password ++ ['@']

def render (u : Url) : List Char :=
  u.scheme ++ "://".toList ++ u.userText ++ u.host.render ++
    (u.port.map fun n => ':' :: Text.digitsOf n).getD [] ++ u.path ++
    (u.query.map ('?' :: ·)).getD [] ++ (u.fragment.map ('#' :: ·)).getD []

end Url

end SchemaCheck.Net
