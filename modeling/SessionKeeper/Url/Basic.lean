import SessionKeeper.Url.Domain.Basic
import SessionKeeper.Url.Percent

/-!
# URLs

Reads a URL of the schemes `http` and `https` and writes it in its normal form. Blanks at the ends
and tabs and line ends anywhere are dropped, backslashes count as slashes, and what stands between
the scheme and the first slash, question mark or hash names the server. Other schemes are told
apart, because no request can be sent to them.
-/

namespace SessionKeeper.Url

/-- Who a request is for: a name or an address. -/
inductive Host
  | domain (name : List Char)
  | address (a : Address)
  deriving DecidableEq, Repr

/-- The two schemes that requests are sent with. -/
inductive Scheme
  | http
  | https
  deriving DecidableEq, Repr

/-- The name of a scheme. -/
def Scheme.name : Scheme → List Char
  | .http => "http".toList
  | .https => "https".toList

/-- The port that goes without saying. -/
def Scheme.defaultPort : Scheme → Nat
  | .http => 80
  | .https => 443

/-- Where a request goes: the scheme, user, host and port. The port is left out when it is the
default. -/
structure Authority where
  scheme : Scheme
  user : List Char
  password : Option (List Char)
  host : Host
  port : Option Nat
  deriving DecidableEq, Repr

/-- A URL in normal form. -/
structure HttpUrl where
  authority : Authority
  path : List Char
  query : Option (List Char)
  fragment : Option (List Char)
  deriving DecidableEq, Repr

/-- Why a text is no URL to which a request can be sent. -/
inductive UrlError
  | relative
  | emptyHost
  | invalidDomain
  | invalidPort
  | invalidV4
  | invalidV6
  | otherScheme (text : List Char)
  | unsendable (text : List Char)
  deriving DecidableEq, Repr

/-- The wording of the reason. -/
def UrlError.message : UrlError → String
  | .relative => "relative URL without a base"
  | .emptyHost => "empty host"
  | .invalidDomain => "invalid international domain name"
  | .invalidPort => "invalid port number"
  | .invalidV4 => "invalid IPv4 address"
  | .invalidV6 => "invalid IPv6 address"
  | .otherScheme _ => "URL scheme is not allowed"
  | .unsendable _ => "Parsed Url is not a valid Uri"

/-- Controls and the space, which do not count at the ends of a URL. -/
def isMargin (c : Char) : Bool :=
  c.toNat ≤ 0x20

/-- Tabs and line ends, which do not count anywhere in a URL. -/
def isIgnored (c : Char) : Bool :=
  c == '\t' || c == '\n' || c == '\r'

/-- What counts of the text of a URL. -/
def significant (cs : List Char) : List Char :=
  (((cs.dropWhile isMargin).reverse.dropWhile isMargin).reverse).filter fun c => !isIgnored c

/-- Characters that a scheme may have behind its first letter. -/
def isSchemeChar (c : Char) : Bool :=
  c.isAlphanum || c == '+' || c == '-' || c == '.'

/-- Splits off the scheme, lowered, and its colon. -/
def splitScheme : List Char → Option (List Char × List Char)
  | [] => none
  | c :: cs =>
    if c.isAlpha then
      match cs.dropWhile isSchemeChar with
      | ':' :: rest => some ((c :: cs.takeWhile isSchemeChar).map Char.toLower, rest)
      | _ => none
    else none

/-- Slashes of either kind. -/
def isSlash (c : Char) : Bool :=
  c == '/' || c == '\\'

/-- Characters that end the authority. -/
def endsAuthority (c : Char) : Bool :=
  isSlash c || c == '?' || c == '#'

/-- Splits behind the last `@`, if there is one. -/
def splitUser (cs : List Char) : Option (List Char) × List Char :=
  match cs.reverse.dropWhile fun c => c != '@' with
  | [] => (none, cs)
  | _ :: before => (some before.reverse, (cs.reverse.takeWhile fun c => c != '@').reverse)

/-- The user name and password, encoded. -/
def readUser (info : List Char) : List Char × Option (List Char) :=
  let name := encode inUserInfo (info.takeWhile fun c => c != ':')
  match info.dropWhile fun c => c != ':' with
  | [] => (name, none)
  | _ :: password => (name, if password = [] then none else some (encode inUserInfo password))

/-- Splits host and port at the first colon outside brackets. -/
def splitPort (inside : Bool) : List Char → List Char × Option (List Char)
  | [] => ([], none)
  | c :: cs =>
    if c = ':' ∧ inside = false then ([], some cs)
    else
      let inside := if c = '[' then true else if c = ']' then false else inside
      match splitPort inside cs with
      | (host, port) => (c :: host, port)

/-- Reads a port number. None is given by no digits. -/
def readPort (scheme : Scheme) (digits : List Char) : Except UrlError (Option Nat) :=
  if digits = [] then .ok none
  else if digits.all Char.isDigit then
    match readIn 10 0 digits with
    | some n =>
      if 65535 < n then .error .invalidPort
      else .ok (if n = scheme.defaultPort then none else some n)
    | none => .error .invalidPort
  else .error .invalidPort

/-- Reads a version 6 address in brackets. -/
def readBracketed (cs : List Char) : Except UrlError Host :=
  match cs.getLast? with
  | some ']' =>
    match readV6 cs.dropLast with
    | some a => .ok (.address a)
    | none => .error .invalidV6
  | _ => .error .invalidV6

/-- Reads a domain name or a version 4 address, which is percent-decoded first. -/
def readName (cs : List Char) : Except UrlError Host :=
  match Text.decode ⟨(decodePercent cs).toArray⟩ with
  | none => .error .invalidDomain
  | some name =>
    match domainToAscii name.toList with
    | none => .error .invalidDomain
    | some domain =>
      if domain = [] then .error .emptyHost
      else if endsInNumber domain then
        match readV4Lenient domain with
        | some a => .ok (.address a)
        | none => .error .invalidV4
      else .ok (.domain domain)

/-- Reads a host. -/
def readHost : List Char → Except UrlError Host
  | [] => .error .emptyHost
  | '[' :: cs => readBracketed cs
  | cs => readName cs

/-- Reads what stands between the scheme and the path. -/
def readAuthority (scheme : Scheme) (cs : List Char) : Except UrlError Authority :=
  let (info?, server) := splitUser cs
  let (user, password) := readUser (info?.getD [])
  let (host, port?) := splitPort false server
  match readHost host with
  | .error e => .error e
  | .ok host =>
    match readPort scheme (port?.getD []) with
    | .error e => .error e
    | .ok port => .ok ⟨scheme, user, password, host, port⟩

/-- Whether a piece of a path means the directory that it is in. -/
def isSingleDot (piece : List Char) : Bool :=
  let piece := piece.map Char.toLower
  piece == ['.'] || piece == ['%', '2', 'e']

/-- Whether a piece of a path means the directory above. -/
def isDoubleDot (piece : List Char) : Bool :=
  let piece := piece.map Char.toLower
  piece == ['.', '.'] || piece == ['.', '%', '2', 'e'] || piece == ['%', '2', 'e', '.'] ||
    piece == ['%', '2', 'e', '%', '2', 'e']

/-- The pieces of a path between slashes of either kind. -/
def pathPieces (cs : List Char) : List (List Char) :=
  splitOn '/' (cs.map fun c => if c = '\\' then '/' else c)

/-- Takes the pieces one after another onto those done, the latest of which is in front. A piece of
dots at the end leaves an empty one. -/
def normalizePieces (done : List (List Char)) : List (List Char) → List (List Char)
  | [] => done.reverse
  | [piece] =>
    if isDoubleDot piece then (([] : List Char) :: done.drop 1).reverse
    else if isSingleDot piece then (([] : List Char) :: done).reverse
    else (encode inPath piece :: done).reverse
  | piece :: rest =>
    if isDoubleDot piece then normalizePieces (done.drop 1) rest
    else if isSingleDot piece then normalizePieces done rest
    else normalizePieces (encode inPath piece :: done) rest

/-- The normal form of a path. -/
def normalizePath (cs : List Char) : List Char :=
  let behind := match cs with
    | [] => []
    | c :: rest => if isSlash c then rest else c :: rest
  (normalizePieces [] (pathPieces behind)).flatMap fun piece => '/' :: piece

/-- Reads a URL behind `http:` or `https:`. -/
def readHttp (scheme : Scheme) (rest : List Char) : Except UrlError HttpUrl :=
  let behind := rest.dropWhile isSlash
  let server := behind.takeWhile fun c => !endsAuthority c
  let tail := behind.dropWhile fun c => !endsAuthority c
  match readAuthority scheme server with
  | .error e => .error e
  | .ok authority =>
    let path := tail.takeWhile fun c => c != '?' && c != '#'
    let tail := tail.dropWhile fun c => c != '?' && c != '#'
    let fragment? := match tail.dropWhile fun c => c != '#' with
      | [] => none
      | _ :: fragment => some (encode inFragment fragment)
    let query? := match tail.takeWhile fun c => c != '#' with
      | [] => none
      | _ :: query => some (encode inQuery query)
    .ok ⟨authority, normalizePath path, query?, fragment?⟩

/-- Reads a URL to which a request can be sent. -/
def parse (text : String) : Except UrlError HttpUrl :=
  match splitScheme (significant text.toList) with
  | none => .error .relative
  | some (scheme, rest) =>
    if scheme = Scheme.http.name then readHttp .http rest
    else if scheme = Scheme.https.name then readHttp .https rest
    else .error (.otherScheme (scheme ++ ':' :: encode isAlwaysEncoded rest))

/-- The text of a host. -/
def Host.write : Host → List Char
  | .domain name => name
  | .address (.v4 n) => writeV4 n
  | .address (.v6 groups) => '[' :: writeV6 groups ++ [']']

/-- The user and password in front of a host. -/
def Authority.writeUser (a : Authority) : List Char :=
  match a.password with
  | some password => a.user ++ ':' :: password ++ ['@']
  | none => if a.user = [] then [] else a.user ++ ['@']

/-- The text of an authority. -/
def Authority.write (a : Authority) : List Char :=
  a.scheme.name ++ "://".toList ++ a.writeUser ++ a.host.write ++
    match a.port with
    | none => []
    | some port => ':' :: Nat.toDigits 10 port

/-- The text of a URL. -/
def HttpUrl.write (u : HttpUrl) : List Char :=
  u.authority.write ++ u.path ++
    (match u.query with
    | none => []
    | some query => '?' :: query) ++
    match u.fragment with
    | none => []
    | some fragment => '#' :: fragment

/-- The text of a URL. -/
def HttpUrl.text (u : HttpUrl) : String :=
  String.ofList u.write

/-- The URL without user name and password, which are not sent as a part of it. -/
def HttpUrl.withoutUser (u : HttpUrl) : HttpUrl :=
  { u with authority := { u.authority with user := [], password := none } }

/-- The URL without its fragment, which is not sent. -/
def HttpUrl.withoutFragment (u : HttpUrl) : HttpUrl :=
  { u with fragment := none }

/-- Characters that a host may have in a URL but not in the head of a request. -/
def isUnsendable (c : Char) : Bool :=
  c == '"' || c == '`' || c == '\x7b' || c == '\x7d'

/-- The longest URL that a request can be sent to. -/
def longestTarget : Nat := 65534

/-- Whether a request can be sent to a URL. -/
def HttpUrl.isSendable (u : HttpUrl) : Bool :=
  !(u.authority.host.write.any isUnsendable) && u.write.length ≤ longestTarget

/-- Drops brackets at the ends of the text of a host. -/
def dropBrackets (cs : List Char) : List Char :=
  ((cs.dropWhile fun c => c == '[').reverse.dropWhile fun c => c == ']').reverse

/-- Whether the text of a host names the own machine. -/
def isLoopbackText (host : List Char) : Bool :=
  host.map Char.toLower == "localhost".toList ||
    ((readAddress (dropBrackets host)).any Address.isLoopback)

/-- Whether a URL leads to the own machine. A text that is no URL does not, nor does a URL of a scheme
other than `http` and `https`, whatever its host: no request can be sent to one, so the answer makes
no difference there. -/
def isLoopback (text : String) : Bool :=
  match parse text with
  | .error _ => false
  | .ok url => isLoopbackText url.authority.host.write

end SessionKeeper.Url
