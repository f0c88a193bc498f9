import SchemaCheck.Unicode.Property

/-!
Texts in lower case. One character becomes two, and a sigma at the end of a word has a form of its
own.
-/

namespace SchemaCheck.Unicode

/-- The small letter of a character; if several differ from it in case only, the one that stands
for all of them. -/
def smallLetter (c : Char) : Char :=
  let n := c.toNat
  if !Property.changesWhenLowercased.contains n then c
  else
    let small := (caseVariants n).filter (!Property.changesWhenLowercased.contains ·)
    match small with
    | [m] => Char.ofNat m
    | _ =>
      match small.find? (!Property.changesWhenCasefolded.contains ·) with
      | some m => Char.ofNat m
      | none => c

/-- Whether the next character that matters has a case. -/
def meetsCased (text : List Char) : Bool :=
  match text.dropWhile (Property.caseIgnorable.contains ·.toNat) with
  | c :: _ => Property.cased.contains c.toNat
  | [] => false

/-- The characters for `c` between two parts of a text; the one in front is given backwards. -/
def lowerChar (before : List Char) (c : Char) (behind : List Char) : List Char :=
  if c = Char.ofNat 0x130 then ['i', Char.ofNat 0x307]
  else if c = Char.ofNat 0x3A3 then
    [Char.ofNat (if meetsCased before && !meetsCased behind then 0x3C2 else 0x3C3)]
  else [smallLetter c]

def lowerFrom : List Char → List Char → List Char
  | _, [] => []
  | before, c :: rest => lowerChar before c rest ++ lowerFrom (c :: before) rest

def lower (text : String) : String := String.ofList (lowerFrom [] text.toList)

end SchemaCheck.Unicode
