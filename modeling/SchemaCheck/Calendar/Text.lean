import SchemaCheck.Calendar.Mail

/-!
The instant that a text stands for, in whichever way it is written, down to a number of seconds
since the beginning of 1970.
-/

namespace SchemaCheck.Calendar

def ofUnixSeconds? (seconds : Int) : Option Instant := Instant.ofUnix? seconds 0

def ofUnixText? (text : List Char) : Option Instant :=
  ((Text.integer? text).filter isSignedWord).bind ofUnixSeconds?

def ofText? (text : List Char) : Option Instant :=
  ofTimestamp? text <|> ofMailDate? text <|> ofLayouts? text <|> ofUnixText? text

end SchemaCheck.Calendar
