/-!
Host names: labels of ASCII letters, digits and hyphens with points in between. A point may follow
the last label.
-/

namespace SchemaCheck.Net.Hostname

def labels : List Char → List (List Char)
  | [] => [[]]
  | c :: rest =>
    if c = '.' then [] :: labels rest
    else
      match labels rest with
      | [] => [[c]]
      | label :: more => (c :: label) :: more

/-- A label has 1 to 63 letters, digits and hyphens, and no hyphen at either end. -/
def isLabel (label : List Char) : Bool :=
  !label.isEmpty && label.length ≤ 63 && label.head? != some '-' && label.getLast? != some '-' &&
    label.all fun c => c.isAlphanum || c == '-'

def withoutRoot (text : List Char) : List Char :=
  if text.getLast? = some '.' then text.dropLast else text

/-- Whether a text is a host name: at most 253 characters of labels. -/
def isHostname (text : List Char) : Bool :=
  let name := withoutRoot text
  !name.isEmpty && name.length ≤ 253 && (labels name).all isLabel

end SchemaCheck.Net.Hostname
