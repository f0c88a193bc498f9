import SchemaCheck.Net.Hostname
import SchemaCheck.Text.Blank

/-!
Email addresses, alone or behind a display name and in angle brackets.
-/

namespace SchemaCheck.Net.Email

/-- The text between angle brackets at the end of a text, if there is nothing else than one such
pair of brackets. -/
def bracketed? (text : List Char) : Option (List Char) :=
  match text with
  | '<' :: rest =>
    let inner := rest.takeWhile fun c => c != '<' && c != '>'
    if !inner.isEmpty && rest.dropWhile (fun c => c != '<' && c != '>') == ['>'] then some inner
    else none
  | _ => none

/-- The text between the brackets behind a display name, which is either in quotes or free of
quotes and brackets. -/
def named? (text : List Char) : Option (List Char) :=
  match text with
  | '"' :: rest =>
    match rest.dropWhile (· != '"') with
    | _ :: rest => bracketed? (rest.dropWhile Text.isBlank)
    | [] => none
  | text => bracketed? (text.dropWhile fun c => c != '<' && c != '>' && c != '"')

def isMailboxChar (c : Char) : Bool :=
  c.isAlphanum || "!#$%&'*+/=?^_`\x7b|\x7d~.-".toList.contains c

def hasDoublePoint : List Char → Bool
  | '.' :: '.' :: _ => true
  | _ :: rest => hasDoublePoint rest
  | [] => false

def isMailbox (text : List Char) : Bool :=
  !text.isEmpty && text.all isMailboxChar && text.head? != some '.' && text.getLast? != some '.' &&
    !hasDoublePoint text

/-- Whether a text is an address: a mailbox, an at sign, and labels with points in between. -/
def isAddress (text : List Char) : Bool :=
  match text.dropWhile (· != '@') with
  | _ :: domain =>
    isMailbox (text.takeWhile (· != '@')) && (Hostname.labels domain).all Hostname.isLabel
  | [] => false

def address? (text : List Char) : Option (List Char) :=
  let address := ((named? text).map Text.trim).getD text
  if isAddress address then some address else none

end SchemaCheck.Net.Email
