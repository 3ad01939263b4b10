import Datebook.IpAddress
import Datebook.Text.Quoted
import Datebook.Url.Reader

/-!
# The configuration of a connection

The URL of a database says how to connect: with what name and password, to what host and
which database. Its scheme is not looked at. The parameters of the query say more; those
that are not known here say nothing. Of several problems the first counts: in the URL
itself, then in the text of a part, then in the parameters in their order.

## Main definitions

* `Datebook.Database.ConfigurationError`, with `message`
* `Datebook.Database.checkConfiguration`
-/

namespace Datebook.Database

open Json (byte bytesOf)

/-- Why a URL says of no database how to connect to it. -/
inductive ConfigurationError where
  | url (source : UrlError)
  | notUtf8 (source : Text.Utf8Error)
  | sslMode (value : String)
  | numeral (source : NumeralError)
  | hostAddress
  deriving DecidableEq, Repr

/-- The wording of what stands before a problem. -/
def ConfigurationError.heading : String :=
  "error with configuration: "

/-- The wording of a configuration error. -/
def ConfigurationError.message (e : ConfigurationError) : String :=
  heading ++ match e with
    | .url source => source.message
    | .notUtf8 source => source.message
    | .sslMode value => heading ++ "unknown value " ++ Text.quoted value ++ " for `ssl_mode`"
    | .numeral source => source.message
    | .hostAddress => "invalid IP address syntax"

/-- The bytes that a part of a URL stands for. -/
def decoded (part : List Char) : Json.Bytes :=
  Text.percentDecode (bytesOf (String.ofList part))

/-- A part of a URL stands for a text. -/
def checkPart (part : List Char) : Except ConfigurationError Unit :=
  match Text.utf8Error? (decoded part) with
  | some e => .error (.notUtf8 e)
  | none => .ok ()

/-- The ways to use encryption, by name. -/
def sslModes : List String :=
  ["disable", "allow", "prefer", "require", "verify-ca", "verify-full"]

/-- A number up to a bound. -/
def checkNumeral (bound : Nat) (value : String) : Except ConfigurationError Unit :=
  match Numeral.readNat bound value.toList with
  | .ok _ => .ok ()
  | .error e => .error (.numeral e)

/-- A parameter, by its name and its value. -/
def checkParameter (name value : String) : Except ConfigurationError Unit :=
  if name = "sslmode" ∨ name = "ssl-mode" then
    if sslModes.contains (String.ofList (value.toList.map Char.toLower)) then .ok ()
    else .error (.sslMode value)
  else if name = "statement-cache-capacity" then checkNumeral Numeral.maxWord64 value
  else if name = "port" then checkNumeral 65535 value
  else if name = "hostaddr" then
    if (IpAddress.ofText? value).isSome then .ok () else .error .hostAddress
  else .ok ()

/-- The URL says how to connect to a database. A host that is the path of a socket has to be a
text too. -/
def checkConfiguration (text : String) : Except ConfigurationError Unit := do
  let url ← (Url.ofText text).mapError .url
  if (decoded url.host).head? = some (byte '/') then checkPart url.host
  checkPart url.username
  checkPart url.password
  checkPart (url.path.dropWhile (· == '/'))
  (Text.formPairs (String.ofList url.query)).forM fun (name, value) => checkParameter name value

end Datebook.Database
