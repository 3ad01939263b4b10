import Datebook.Url.Host
import Datebook.Url.Path

/-!
# Reading URLs

A URL begins with a scheme and a colon. Two slashes announce a place: perhaps a name and a
password, a host, and perhaps a port. A path and a query follow; a fragment is read over.

The schemes of the web always name a place, however many slashes announce it, and take a
backslash for a slash; so does the scheme `file`, whose place is a host alone and may be
left out. Without a place and a slash, what follows any other scheme is one text.

White space and control characters around a URL are read over, and so are tabs and line
breaks anywhere within it.

## Main definitions

* `Datebook.Url`, `Datebook.Url.ofText`
-/

namespace Datebook

/-- What a URL says of a place and of what is found there, as it is written. -/
structure Url where
  username : List Char := []
  password : List Char := []
  /-- The host, empty where none is named. -/
  host : List Char := []
  path : List Char
  query : List Char := []
  deriving DecidableEq, Repr

namespace Url

/-- The kinds of schemes. -/
inductive SchemeKind where
  | file
  | web
  | other
  deriving DecidableEq, Repr

namespace SchemeKind

/-- The kind of the scheme with a name. -/
def ofName (name : String) : SchemeKind :=
  if name = "file" then .file
  else if ["http", "https", "ws", "wss", "ftp"].contains name then .web
  else .other

/-- The scheme takes a backslash for a slash. -/
def takesBackslash (kind : SchemeKind) : Bool :=
  kind != .other

/-- A slash, as the scheme takes it. -/
def isSlash (kind : SchemeKind) (c : Char) : Bool :=
  c == '/' || (c == '\\' && kind.takesBackslash)

/-- A character that ends what is said of a place. -/
def endsPlace (kind : SchemeKind) (c : Char) : Bool :=
  kind.isSlash c || c == '?' || c == '#'

end SchemeKind

/-! ### Paths and queries -/

/-- The query at the head of a text. -/
def queryOf : List Char → List Char
  | '?' :: cs => cs.takeWhile (· != '#')
  | _ => []

/-- A URL whose place is given, with the path and the query that follow. A slash at the head
of the path is read over. -/
def withPath (kind : SchemeKind) (place : Url) (cs : List Char) : Url :=
  let cs := if cs.head?.any kind.isSlash then cs.drop 1 else cs
  let isEnd := fun c : Char => c == '?' || c == '#'
  let written := cs.takeWhile fun c => !isEnd c
  { place with
    path := normalPath (kind == .file) (written.map fun c => if kind.isSlash c then '/' else c)
    query := queryOf (cs.dropWhile fun c => !isEnd c) }

/-- A URL that is one text after its scheme. -/
def ofPlainText (cs : List Char) : Url :=
  let isEnd := fun c : Char => c == '?' || c == '#'
  { path := cs.takeWhile fun c => !isEnd c, query := queryOf (cs.dropWhile fun c => !isEnd c) }

/-! ### Places -/

/-- The host at the head of a text, and what follows it. A colon in brackets does not end
it. -/
def takeHost (kind : SchemeKind) : (inBrackets : Bool) → List Char → List Char × List Char
  | _, [] => ([], [])
  | inBrackets, c :: cs =>
    if (c == ':' && !inBrackets) || kind.endsPlace c then ([], c :: cs)
    else
      let (host, rest) := takeHost kind (if c = '[' then true else c != ']' && inBrackets) cs
      (c :: host, rest)

/-- What follows the digits of a port, onto a value read so far. -/
def skipPortDigits : Nat → List Char → Except UrlError (List Char)
  | _, [] => .ok []
  | n, c :: cs =>
    if Numeral.isDigit c then
      let next := 10 * n + Numeral.digitValue c
      if 65535 < next then .error .invalidPort else skipPortDigits next cs
    else if "/\\?#".toList.contains c then .ok (c :: cs)
    else .error .invalidPort

/-- What follows a port, which may be left out. -/
def skipPort : List Char → Except UrlError (List Char)
  | ':' :: cs => skipPortDigits 0 cs
  | cs => .ok cs

/-- What stands before the last at sign, if there is one. -/
def credentials? (cs : List Char) : Option (List Char) :=
  match cs.reverse.dropWhile (· != '@') with
  | [] => none
  | _ :: before => some before.reverse

/-- A URL from its host on, after the credentials. A host has to be named for a scheme of the
web, for credentials and for a port. -/
def ofHost (kind : SchemeKind) (credentials cs : List Char) : Except UrlError Url := do
  let (host, rest) := takeHost kind false cs
  if host.isEmpty && (kind == .web || rest.head? == some ':') then .error .emptyHost
  checkHost kind.takesBackslash host
  let rest ← skipPort rest
  let (username, password) := Text.splitFirst ':' credentials
  if host.isEmpty && !(username.isEmpty && password.isEmpty) then .error .emptyHost
  .ok (withPath kind { username, password, host, path := [] } rest)

/-- A URL from its place on. -/
def ofPlace (kind : SchemeKind) (cs : List Char) : Except UrlError Url :=
  match credentials? (cs.takeWhile fun c => !kind.endsPlace c) with
  | none => ofHost kind [] cs
  | some credentials =>
    let rest := cs.drop (credentials.length + 1)
    if credentials.isEmpty && rest.head?.any kind.endsPlace then .error .emptyHost
    else ofHost kind credentials rest

/-- A URL of a file, from its host on. The name of a drive is no host. -/
def ofFileHost (cs : List Char) : Except UrlError Url :=
  let isEnd := SchemeKind.file.endsPlace
  let host := cs.takeWhile fun c => !isEnd c
  let rest := cs.dropWhile fun c => !isEnd c
  if host.length = 2 && beginsWithDrive host then .ok (withPath .file { path := [] } cs)
  else if host.isEmpty then .ok (withPath .file { path := [] } rest)
  else do
    checkHost true host
    .ok (withPath .file { host, path := [] } rest)

/-! ### Schemes -/

/-- A URL from the colon after its scheme on. -/
def ofKind (kind : SchemeKind) (cs : List Char) : Except UrlError Url :=
  match kind with
  | .web => ofPlace .web (cs.dropWhile SchemeKind.web.isSlash)
  | .file =>
    match cs with
    | a :: b :: rest =>
      if SchemeKind.file.isSlash a && SchemeKind.file.isSlash b then ofFileHost rest
      else .ok (withPath .file { path := [] } cs)
    | _ => .ok (withPath .file { path := [] } cs)
  | .other =>
    match cs with
    | '/' :: '/' :: rest => ofPlace .other rest
    | '/' :: _ => .ok (withPath .other { path := [] } cs)
    | _ => .ok (ofPlainText cs)

/-- A character of a scheme. -/
def isSchemeChar (c : Char) : Bool :=
  c.isAlphanum || c == '+' || c == '-' || c == '.'

/-- A text without control characters and spaces at its ends. -/
def trimPadding (cs : List Char) : List Char :=
  let isPadding := fun c : Char => c.toNat ≤ 0x20
  ((cs.dropWhile isPadding).reverse.dropWhile isPadding).reverse

/-- The URL that a text stands for. -/
def ofText (text : String) : Except UrlError Url :=
  let cs := (trimPadding text.toList).filter fun c => c != '\t' && c != '\n' && c != '\r'
  match cs.dropWhile isSchemeChar with
  | ':' :: rest =>
    if cs.head?.any Char.isAlpha then
      ofKind (.ofName (String.ofList ((cs.takeWhile isSchemeChar).map Char.toLower))) rest
    else .error .relative
  | _ => .error .relative

end Url

end Datebook
