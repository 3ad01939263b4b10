/-!
# Media types

A media type is a type and a subtype with a slash between them, followed by parameters,
each after a semicolon. What stands after the last plus sign of a subtype is its suffix. JSON
is announced by the type `application` with the subtype or the suffix `json`, in either case.

## Main definitions

* `Datebook.Http.splitSuffix`
* `Datebook.Http.isJsonType`
-/

namespace Datebook.Http

/-- A character that type, subtype, and names and values of parameters are made of. -/
def isTokenChar (c : Char) : Bool :=
  c.isAlphanum || "!#$%&'*+-.^_`|~".toList.contains c

/-- A character that may stand between quotation marks. -/
def isQuotableChar (c : Char) : Bool :=
  31 < c.toNat && c.toNat < 127

/-- Where the reading of parameters stands. -/
inductive ParameterState where
  /-- Before a name, of which none has been read. -/
  | start
  | name
  /-- After the equals sign; `true` once a character of the value was read. -/
  | value (begun : Bool)
  | quoted (begun : Bool)
  /-- After the quotation mark that ends a value. -/
  | afterQuote

/-- The text after a semicolon is a list of parameters. -/
def areParameters : ParameterState → List Char → Bool
  | .start, [] => true
  | .name, [] => false
  | .value _, [] => true
  | .quoted _, [] => false
  | .afterQuote, [] => true
  | .start, c :: cs =>
    if c = ' ' then areParameters .start cs else isTokenChar c && areParameters .name cs
  | .name, c :: cs =>
    if c = '=' then areParameters (.value false) cs else isTokenChar c && areParameters .name cs
  | .value begun, c :: cs =>
    if c = '"' ∧ !begun then areParameters (.quoted false) cs
    else if c = ';' then begun && areParameters .start cs
    else isTokenChar c && areParameters (.value true) cs
  | .quoted begun, c :: cs =>
    if c = '"' ∧ begun then areParameters .afterQuote cs
    else isQuotableChar c && areParameters (.quoted true) cs
  | .afterQuote, c :: cs =>
    if c = ';' then areParameters .start cs else c = ' ' && areParameters .afterQuote cs

/-- A subtype and its suffix. A plus sign that begins the subtype does not end it. -/
def splitSuffix (s : List Char) : List Char × Option (List Char) :=
  let suffix := (s.reverse.takeWhile (· != '+')).reverse
  if suffix.length + 1 < s.length then (s.take (s.length - (suffix.length + 1)), some suffix)
  else (s, none)

/-- The content type announces JSON. -/
def isJsonType (contentType : String) : Bool :=
  let cs := contentType.toList
  let essence := (cs.takeWhile (· != ';')).map Char.toLower
  let written := essence.drop "application/".length
  let (subtype, suffix) := splitSuffix written
  essence.take "application/".length == "application/".toList && written.all isTokenChar &&
    (subtype == "json".toList || suffix == some "json".toList) &&
    areParameters .start ((cs.dropWhile (· != ';')).drop 1)

end Datebook.Http
