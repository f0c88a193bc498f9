import SchemaCheck.Text.Blank
import SchemaCheck.Text.Digits

/-!
Reading a text from its front. Each reader takes the text that is left and gives, where it can,
what it has read and the text behind it.
-/

namespace SchemaCheck.Text

def skip? (c : Char) : List Char → Option (List Char)
  | [] => none
  | d :: rest => if c = d then some rest else none

def skipBlanks (text : List Char) : List Char := text.dropWhile isBlank

def skipSomeBlanks? : List Char → Option (List Char)
  | [] => none
  | c :: rest => if isBlank c then some (skipBlanks rest) else none

def leadingDigits (most : Nat) (text : List Char) : List Char :=
  (text.take most).takeWhile Char.isDigit

def scanNumber (least most : Nat) (text : List Char) : Option (Nat × List Char) :=
  let digits := leadingDigits most text
  if digits.length < least then none else some (numeral digits, text.drop digits.length)

def scanNatural (text : List Char) : Option (Nat × List Char) := scanNumber 1 text.length text

/-- The index of the word that the text starts with, in any case, and the text behind it. -/
def scanWord (words : List String) (text : List Char) : Option (Nat × List Char) :=
  let starts (word : String) : Bool :=
    word.toList.map Char.toLower == (text.take word.length).map Char.toLower
  match words.findIdx? starts with
  | some i => some (i, text.drop (words.getD i "").length)
  | none => none

end SchemaCheck.Text
