import SchemaCheck.Pattern.Matching
import SchemaCheck.Pattern.Parser

/-!
The formats of strings that validation checks, each by a pattern.
-/

namespace SchemaCheck

inductive TextFormat where
  | email
  | dateTime
  | uri
deriving DecidableEq

namespace TextFormat

def all : List TextFormat := [email, dateTime, uri]

def name : TextFormat → String
  | email => "email"
  | dateTime => "date-time"
  | uri => "uri"

def ofName? (name : String) : Option TextFormat := all.find? fun format => format.name == name

/-- The pattern of a format. A date-time may have a fraction and must have an offset. -/
def patternText : TextFormat → String
  | email => "^[a-zA-Z0-9._%+\\-]+@[a-zA-Z0-9.\\-]+\\.[a-zA-Z]\x7b2,\x7d$"
  | dateTime =>
    "^\\d\x7b4\x7d-\\d\x7b2\x7d-\\d\x7b2\x7dT\\d\x7b2\x7d:\\d\x7b2\x7d:\\d\x7b2\x7d" ++
      "(\\.\\d+)?(Z|[+-]\\d\x7b2\x7d:\\d\x7b2\x7d)$"
  | uri => "^(https?|ftp)://[^\\s/$.?#].[^\\s]*$"

def accepts (format : TextFormat) (text : String) : Bool :=
  (Pattern.ofText? format.patternText).any (·.isMatch text)

end TextFormat

end SchemaCheck
