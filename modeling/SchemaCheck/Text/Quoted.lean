import SchemaCheck.Text.Ascii
import SchemaCheck.Unicode.Property

/-!
Texts in double quotes, for diagnostics. What would not show is written as an escape: line breaks,
tabs and null by a letter, everything else by its number.
-/

namespace SchemaCheck.Text

open Unicode

/-- The characters that do not show: controls, separators other than the blank, characters without
a meaning, and marks that join the character in front. -/
def hidden : CharSet :=
  .union Property.graphemeExtend
    (.diff (.union Property.other Property.separator) (.single 0x20))

def quoteChar (c : Char) : List Char :=
  if c = '"' then ['\\', '"']
  else if c = '\\' then ['\\', '\\']
  else if c = '\n' then ['\\', 'n']
  else if c = '\r' then ['\\', 'r']
  else if c = '\t' then ['\\', 't']
  else if c = Char.ofNat 0 then ['\\', '0']
  else if hidden.contains c.toNat then ['\\', 'u', '\x7b'] ++ hexDigitsOf c.toNat ++ ['\x7d']
  else [c]

def quoted (text : String) : String :=
  String.ofList ('"' :: (text.toList.flatMap quoteChar ++ ['"']))

end SchemaCheck.Text
