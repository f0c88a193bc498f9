import SchemaCheck.Unicode.Category
import SchemaCheck.Unicode.CharSet
import SchemaCheck.Unicode.PropertyTable

/-!
Sets of characters that are derived from general categories and tables, as the standard derives
them.
-/

namespace SchemaCheck.Unicode

open CharSet

namespace Property

open Category

def casedLetter : CharSet := unions [uppercaseLetter, lowercaseLetter, titlecaseLetter]

def letter : CharSet := unions [casedLetter, otherLetter, modifierLetter]

def mark : CharSet := unions [nonspacingMark, spacingMark, enclosingMark]

def number : CharSet := unions [decimalNumber, letterNumber, otherNumber]

def punctuation : CharSet :=
  unions [connectorPunctuation, dashPunctuation, openPunctuation, closePunctuation,
    initialPunctuation, finalPunctuation, otherPunctuation]

def symbol : CharSet := unions [mathSymbol, currencySymbol, modifierSymbol, otherSymbol]

def separator : CharSet := unions [spaceSeparator, lineSeparator, paragraphSeparator]

/-- Code points between the two halves of surrogate pairs are no characters. -/
def surrogate : CharSet := range 0xD800 0xDFFF

def assigned : CharSet :=
  unions [letter, mark, number, punctuation, symbol, separator, control, format, privateUse,
    surrogate]

def unassigned : CharSet := complement assigned

def other : CharSet := unions [control, format, privateUse, surrogate, unassigned]

open PropertyTable

def lowercase : CharSet := union lowercaseLetter otherLowercase

def uppercase : CharSet := union uppercaseLetter otherUppercase

def cased : CharSet := unions [lowercase, uppercase, titlecaseLetter]

def alphabetic : CharSet :=
  unions [lowercase, uppercase, titlecaseLetter, otherLetter, modifierLetter, letterNumber,
    otherAlphabetic]

def math : CharSet := union mathSymbol otherMath

def caseIgnorable : CharSet :=
  unions [nonspacingMark, enclosingMark, format, modifierLetter, modifierSymbol, ignorableInWords]

def graphemeExtend : CharSet := unions [nonspacingMark, enclosingMark, otherGraphemeExtend]

def graphemeBase : CharSet :=
  complement (unions [control, format, surrogate, privateUse, unassigned, lineSeparator,
    paragraphSeparator, graphemeExtend])

/-- Characters that patterns keep for themselves. -/
def patternReserved : CharSet := union patternSyntax patternWhiteSpace

def idStart : CharSet := diff (unions [letter, letterNumber, otherIdStart]) patternReserved

def idContinue : CharSet :=
  unions [idStart, otherIdContinue,
    diff (unions [nonspacingMark, spacingMark, decimalNumber, connectorPunctuation])
      patternReserved]

def xidStart : CharSet := diff idStart startNotStable

def xidContinue : CharSet := diff idContinue continueNotStable

def changesWhenLowercased : CharSet :=
  union (diff (union uppercaseLetter titlecaseLetter) capitalsWithoutLower) lowercasedToo

def changesWhenUppercased : CharSet :=
  union (diff lowercaseLetter smallWithoutUpper) uppercasedToo

def changesWhenTitlecased : CharSet :=
  union (diff changesWhenUppercased upperWithoutTitle) titlecasedToo

def changesWhenCasefolded : CharSet :=
  union (diff changesWhenLowercased lowercasedNotFolded) foldedToo

def changesWhenCasemapped : CharSet :=
  unions [changesWhenLowercased, changesWhenUppercased, changesWhenTitlecased]

def word : CharSet :=
  unions [alphabetic, mark, decimalNumber, connectorPunctuation, joinControl]

end Property

def isAlphabetic (c : Char) : Bool := Property.alphabetic.contains c.toNat

def isAlphanumeric (c : Char) : Bool := isAlphabetic c || Property.number.contains c.toNat

def isWordChar (c : Char) : Bool := Property.word.contains c.toNat

end SchemaCheck.Unicode
