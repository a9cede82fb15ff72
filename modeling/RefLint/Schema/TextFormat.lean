import RefLint.Address.Email
import RefLint.Address.Host
import RefLint.Address.Template
import RefLint.Address.Uri
import RefLint.Clock
import RefLint.Regex.Pattern
import RefLint.Schema.Dialect

/-!
# Forms of texts

Schemas can ask for texts of a certain form by its name. Later generations take these names for
remarks, so only the earlier ones check them.
-/

namespace RefLint

set_option autoImplicit false

inductive TextFormat where
  | date | dateTime | time
  | email | internationalEmail
  | hostname | internationalHostname
  | ipv4 | ipv6
  | uri | uriReference | iri | iriReference | uriTemplate
  | jsonPointer | relativeJsonPointer
  | regex
  deriving DecidableEq

namespace TextFormat

def all : List TextFormat := [
  date, dateTime, time, email, internationalEmail, hostname, internationalHostname, ipv4, ipv6,
  uri, uriReference, iri, iriReference, uriTemplate, jsonPointer, relativeJsonPointer, regex]

def name : TextFormat → String
  | date => "date"
  | dateTime => "date-time"
  | time => "time"
  | email => "email"
  | internationalEmail => "idn-email"
  | hostname => "hostname"
  | internationalHostname => "idn-hostname"
  | ipv4 => "ipv4"
  | ipv6 => "ipv6"
  | uri => "uri"
  | uriReference => "uri-reference"
  | iri => "iri"
  | iriReference => "iri-reference"
  | uriTemplate => "uri-template"
  | jsonPointer => "json-pointer"
  | relativeJsonPointer => "relative-json-pointer"
  | regex => "regex"

def since : TextFormat → Dialect
  | jsonPointer | uriReference | uriTemplate => .draft6
  | time | internationalHostname | iri | iriReference | relativeJsonPointer => .draft7
  | _ => .draft4

/-- The format with a name, where the generation checks it. -/
def ofName? (dialect : Dialect) (name : String) : Option TextFormat :=
  all.find? fun format =>
    format.name == name && format.since.isSince dialect && Dialect.draft7.isUntil dialect

def isAbsolute (international : Bool) (text : String) : Bool :=
  match Uri.parseWith ⟨international⟩ text with
  | .ok address => address.scheme.isSome
  | .error _ => false

def isReference (international : Bool) (text : String) : Bool :=
  match Uri.parseWith ⟨international⟩ text with
  | .ok _ => true
  | .error _ => false

/-- Whether every `~` is part of `~0` or `~1`. -/
def hasEscapes : List Char → Bool
  | '~' :: '0' :: rest => hasEscapes rest
  | '~' :: '1' :: rest => hasEscapes rest
  | '~' :: _ => false
  | _ :: rest => hasEscapes rest
  | [] => true

def isPointer (text : List Char) : Bool :=
  match text with
  | [] => true
  | '/' :: _ => hasEscapes text
  | _ => false

/-- A number without a zero in front, and `#` or a pointer behind it. -/
def isRelativePointer (text : List Char) : Bool :=
  let digits := text.takeWhile Char.isDigit
  let behind := text.dropWhile Char.isDigit
  !digits.isEmpty && (digits.head? ≠ some '0' || digits.length == 1)
    && (behind == ['#'] || isPointer behind)

def accepts (format : TextFormat) (text : String) : Bool :=
  match format with
  | date => Clock.isDate text.toList
  | dateTime => Clock.isDateTime text.toList
  | time => Clock.isTime text.toList
  | email => Email.isAddress Host.isName text.toList
  | internationalEmail => Email.isAddress Host.isInternationalName text.toList
  | hostname => Host.isName text.toList
  | internationalHostname => Host.isInternationalName text.toList
  | ipv4 => Network.isVersion4 text.toList
  | ipv6 => Network.isVersion6 text.toList
  | uri => isAbsolute false text
  | uriReference => isReference false text
  | iri => isAbsolute true text
  | iriReference => isReference true text
  | uriTemplate => Template.isTemplate text.toList
  | jsonPointer => isPointer text.toList
  | relativeJsonPointer => isRelativePointer text.toList
  | regex => Pattern.isAcceptable text

end TextFormat

end RefLint
