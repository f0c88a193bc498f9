import SchemaCheck.Base64
import SchemaCheck.Calendar.Text
import SchemaCheck.Coercion.Basic
import SchemaCheck.Duration
import SchemaCheck.Json.Printer
import SchemaCheck.Net.Email
import SchemaCheck.Net.Hostname
import SchemaCheck.Net.Ip
import SchemaCheck.Net.Url
import SchemaCheck.Uuid

/-!
Coercion through a semantic format: a value is read as an instant, an address, a duration and so
on. What has been read has a canonical text, which stands for it as a JSON value.
-/

namespace SchemaCheck

open Json (Value)

inductive SemanticFormat where
  | dateTime
  | date
  | uuid
  | email
  | url
  | duration
  | ip
  | ipv4
  | ipv6
  | base64
  | hostname
  | json
deriving DecidableEq

def SemanticFormat.ofName? (name : String) : Option SemanticFormat :=
  match name with
  | "date-time" | "datetime" => some dateTime
  | "date" => some date
  | "uuid" => some uuid
  | "email" => some email
  | "uri" | "url" => some url
  | "duration" => some duration
  | "ip" => some ip
  | "ipv4" => some ipv4
  | "ipv6" => some ipv6
  | "byte" | "base64" => some base64
  | "hostname" => some hostname
  | "json" => some json
  | _ => none

inductive Meaning where
  | json (value : Value)
  | instant (instant : Calendar.Instant)
  | date (date : Calendar.Date)
  | uuid (id : Uuid)
  | email (address : List Char)
  | url (address : Net.Url) (text : List Char)
  | duration (duration : Duration)
  | ip (address : Net.Ip)
  | bytes (bytes : List UInt8)
  | hostname (name : List Char)

namespace Coercion

/-- The text of a string without white space around it, if any is left. -/
def givenText? : Value → Option (List Char)
  | .string s =>
    let text := Text.trim s.toList
    if text.isEmpty then none else some text
  | _ => none

/-- An integer is a number of seconds since the beginning of 1970. -/
def toInstant? : Value → Option Calendar.Instant
  | .number n => n.signed?.bind Calendar.ofUnixSeconds?
  | value => (givenText? value).bind Calendar.ofText?

def toDate? (value : Value) : Option Calendar.Date := (toInstant? value).map (·.date)

def toUuid? (value : Value) : Option Uuid := (givenText? value).bind Uuid.ofText?

def toEmail? (value : Value) : Option (List Char) := (givenText? value).bind Net.Email.address?

/-- A number counts milliseconds. -/
def toDuration? : Value → Option Duration
  | .number n =>
    match n.unsigned? with
    | some n => Duration.ofMilliseconds? n
    | none => Duration.ofRealMilliseconds? n.toBinary64
  | value => (givenText? value).bind Duration.ofText?

def toIp? (value : Value) : Option Net.Ip := (givenText? value).bind Net.Ip.ofText?

def toIpv4? (value : Value) : Option Net.Ipv4 := (givenText? value).bind Net.Ipv4.ofText?

/-- An address that stands for an IPv4 address does not count. -/
def toIpv6? (value : Value) : Option Net.Ipv6 := do
  let address ← (givenText? value).bind Net.Ipv6.ofText?
  if address.mapped?.isSome then none else some address

def toBytes? : Value → Option (List UInt8)
  | .string s => Base64.decodeAny? (Text.trim s.toList)
  | _ => none

def toHostname? (value : Value) : Option (List Char) := do
  let text ← givenText? value
  if Net.Hostname.isHostname text then some text else none

def hasSchemeMark : List Char → Bool
  | [] => false
  | c :: rest => "://".toList.isPrefixOf (c :: rest) || hasSchemeMark rest

/-- A web address as it is written, with the scheme that is meant where there is none. -/
def withScheme (text : List Char) : List Char :=
  if hasSchemeMark text then text else "https://".toList ++ text

/-- The text of a web address: as written where only the slash behind the host has been added. -/
def urlText (address : Net.Url) (written : List Char) : List Char :=
  let rendered := address.render
  if rendered = written ++ ['/'] then written else rendered

def toUrl? (value : Value) : Option (Net.Url × List Char) := do
  let written := withScheme (← givenText? value)
  let address ← Net.Url.ofText? written
  return (address, urlText address written)

end Coercion

open Coercion

def SemanticFormat.read? : SemanticFormat → Value → Option Meaning
  | dateTime, value => (toInstant? value).map .instant
  | date, value => (toDate? value).map .date
  | uuid, value => (toUuid? value).map .uuid
  | email, value => (toEmail? value).map .email
  | url, value => (toUrl? value).map fun (address, text) => .url address text
  | duration, value => (toDuration? value).map .duration
  | ip, value => (toIp? value).map .ip
  | ipv4, value => (toIpv4? value).map fun address => .ip (.v4 address)
  | ipv6, value => (toIpv6? value).map fun address => .ip (.v6 address)
  | base64, value => (toBytes? value).map .bytes
  | hostname, value => (toHostname? value).map .hostname
  | json, value => (decode? value).map .json

namespace Meaning

def text : Meaning → String
  | .json (.string s) => s
  | .json (.number n) => numberText n
  | .json value => value.compact
  | .instant i => String.ofList i.text
  | .date d => String.ofList d.text
  | .uuid id => String.ofList id.render
  | .email address => String.ofList address
  | .url _ text => String.ofList text
  | .duration d => d.render
  | .ip address => String.ofList address.render
  | .bytes b => String.ofList (Base64.standard.encode b)
  | .hostname name => String.ofList name

/-- The JSON value of a meaning: its canonical text, unless it is a JSON value itself. -/
def toValue : Meaning → Value
  | .json value => value
  | meaning => .string meaning.text

end Meaning

/-- Coerces a value to a kind, by way of a format if there is one of that name. A string receives
the canonical text of what has been read. -/
def Kind.read? (kind : Kind) (format : Option String) (value : Value) : Option Meaning :=
  match format.bind SemanticFormat.ofName? with
  | some format =>
    (format.read? value).map fun meaning =>
      if kind = .string then .json (.string meaning.text) else meaning
  | none => (kind.coerce? value).map .json

end SchemaCheck
