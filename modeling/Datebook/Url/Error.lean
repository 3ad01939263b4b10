/-!
# Errors in URLs

## Main definitions

* `Datebook.UrlError`, `Datebook.UrlError.message`
-/

namespace Datebook

/-- Why a text is no URL. -/
inductive UrlError where
  /-- The text does not begin with a scheme. -/
  | relative
  | emptyHost
  /-- The host holds a mark of URLs. -/
  | forbiddenCharacter
  | invalidDomainName
  | invalidV4
  | invalidV6
  | invalidPort
  deriving DecidableEq, Repr

/-- The wording of an error. -/
def UrlError.message : UrlError → String
  | .relative => "relative URL without a base"
  | .emptyHost => "empty host"
  | .forbiddenCharacter => "invalid domain character"
  | .invalidDomainName => "invalid international domain name"
  | .invalidV4 => "invalid IPv4 address"
  | .invalidV6 => "invalid IPv6 address"
  | .invalidPort => "invalid port number"

end Datebook
