import Courier.Decimal.Reader
import Courier.Http.HostName
import Courier.Http.HostNumber

/-!
# Addresses

An address has a scheme, an authority of user, host and port, a path, a query
and a fragment, most of which may be missing. Reading one brings it into a
normal form: scheme and host in small letters, no port where it is the usual
one of the scheme, `.` and `..` in the path resolved, and every character that
may not stand in its part percent-encoded.

Key definitions: `Url`, `Url.parse`, `Url.text`, `Url.netloc`, `Url.Fault`.
-/

namespace Courier

/-- An address in its normal form. -/
structure Url where
  scheme : Text
  userinfo : Text
  /-- The host; a numeric one of groups stands without its brackets. -/
  host : Text
  port : Option Int
  path : Text
  query : Option Text
  fragment : Option Text
  deriving DecidableEq, Repr

namespace Url

/-- Why a text is no address. -/
inductive Fault where
  /-- The address, or a part of it, is too long. -/
  | tooLong (part : Option Text)
  /-- A control character stands in the address, or in a part of it. -/
  | control (part : Option Text) (c : Char) (place : Nat)
  /-- The port is not a number. -/
  | badPort (port : Text)
  /-- The host looks like four numbers with dots, and is not. -/
  | badDotted (host : Text)
  /-- What stands in brackets is no numeric host. -/
  | badGrouped (host : Text)
  /-- The host is no name in the characters of any script. -/
  | badName (host : Text)
  /-- A path after an authority does not start with a slash. -/
  | rootlessPath
  /-- A path without anything before it starts with two slashes. -/
  | doubleSlash
  /-- A path without anything before it starts with a colon. -/
  | leadingColon
  deriving DecidableEq, Repr

/-- The fault in words. -/
def Fault.message : Fault → Text
  | .tooLong none => "URL too long".toList
  | .tooLong (some part) => "URL component ".toList ++ Text.quoted part ++ " too long".toList
  | .control part c place =>
    "Invalid non-printable ASCII character in URL".toList ++
      (match part with
        | none => []
        | some part => [' '] ++ part ++ " component".toList) ++
      ", ".toList ++ Text.quoted [c] ++ " at position ".toList ++ Text.ofNat place ++ ['.']
  | .badPort port => "Invalid port: ".toList ++ Text.quoted port
  | .badDotted host => "Invalid IPv4 address: ".toList ++ Text.quoted host
  | .badGrouped host => "Invalid IPv6 address: ".toList ++ Text.quoted host
  | .badName host => "Invalid IDNA hostname: ".toList ++ Text.quoted host
  | .rootlessPath => "For absolute URLs, path must be empty or begin with '/'".toList
  | .doubleSlash => "Relative URLs cannot have a path starting with '//'".toList
  | .leadingColon => "Relative URLs cannot have a path starting with ':'".toList

/-- The longest address, and the longest part of one. -/
def maxLength : Nat := 65536

/-- Is the character an ASCII control character? -/
def isControl (c : Char) : Bool := c.toNat < 0x20 || c.toNat = 0x7F

/-- An address, or the named part of one, without faults of length and control characters. -/
def check (part : Option Text) (t : Text) : Except Fault Unit :=
  if maxLength < t.length then .error (.tooLong part)
  else
    match t.dropWhile (!isControl ·) with
    | [] => .ok ()
    | c :: _ => .error (.control part c (t.takeWhile (!isControl ·)).length)

/-! ### The characters of each part -/

/-- Characters that stand in every part. -/
def isUnreserved (c : Char) : Bool := c.isAlphanum || "-._~".toList.contains c

/-- A visible ASCII character other than the given ones. -/
def visibleBut (others : Text) (c : Char) : Bool :=
  0x20 < c.toNat && c.toNat < 0x7F && !others.contains c

/-- May the character stand in a path? -/
def inPath (c : Char) : Bool := visibleBut "\"#<>?`\x7b\x7d".toList c

/-- May the character stand in a query? -/
def inQuery (c : Char) : Bool := visibleBut "\"#<>".toList c

/-- May the character stand in a fragment? -/
def inFragment (c : Char) : Bool := visibleBut "\"<>`".toList c

/-- May the character stand in a user's name and password? -/
def inUserinfo (c : Char) : Bool := visibleBut "\"#<>?`\x7b\x7d/;=@[\\]^|".toList c

/-- May the character stand in a host name? -/
def inHost (c : Char) : Bool :=
  isUnreserved c || "!$&'()*+,;=\"`\x7b\x7d%|\\".toList.contains c

/-! ### The parts in their normal form -/

/-- The usual port of a scheme. -/
def usualPort? (scheme : Text) : Option Int :=
  if scheme = "http".toList || scheme = "ws".toList then some 80
  else if scheme = "https".toList || scheme = "wss".toList then some 443
  else if scheme = "ftp".toList then some 21
  else none

/-- A port as a number, left out where it is the usual one. -/
def normalPort (scheme : Text) : Option Text → Except Fault (Option Int)
  | none | some [] => .ok none
  | some port =>
    match Decimal.readInt? port with
    | none => .error (.badPort port)
    | some n => .ok (if usualPort? scheme = some n then none else some n)

/-- A host name in the characters of a request. -/
def normalHost (host : Text) : Except Fault Text :=
  if host = [] then .ok []
  else if HostNumber.looksDotted host then
    if HostNumber.isDotted host then .ok host else .error (.badDotted host)
  else if host.head? = some '[' && host.getLast? = some ']' && 1 < host.length then
    let inner := (host.drop 1).dropLast
    if HostNumber.isGrouped inner then .ok inner else .error (.badGrouped host)
  else if host.all Percent.isAscii then
    .ok (Percent.encode inHost (host.map Char.toLower))
  else
    match HostName.encode? host with
    | some name => .ok name
    | none => .error (.badName host)

/-- One piece more of a path in which `.` and `..` are resolved. -/
def resolveStep (pieces : List Text) (piece : Text) : List Text :=
  if piece = ['.'] then pieces
  else if piece = ['.', '.'] then
    if pieces = [] || pieces = [[]] then pieces else pieces.dropLast
  else pieces ++ [piece]

/-- A path with `.` and `..` resolved. -/
def resolveDots (path : Text) : Text :=
  ['/'].intercalate ((Text.splitOn '/' path).foldl resolveStep [])

/-- The fault of a path, given what stands before it. -/
def pathFault? (path : Text) (hasScheme hasAuthority : Bool) : Option Fault :=
  if hasAuthority && path != [] && path.head? != some '/' then some .rootlessPath
  else if !hasScheme && !hasAuthority && path.startsWith ['/', '/'] then some .doubleSlash
  else if !hasScheme && !hasAuthority && path.head? == some ':' then some .leadingColon
  else none

/-- An address from its raw parts. -/
def ofParts (scheme userinfo host : Text) (port : Option Text) (path : Text)
    (query fragment : Option Text) : Except Fault Url := do
  let user := Percent.encode inUserinfo userinfo
  let name ← normalHost host
  let number ← normalPort scheme port
  let hasScheme := scheme != []
  let hasAuthority := user != [] || name != [] || number.isSome
  match pathFault? path hasScheme hasAuthority with
  | some fault => throw fault
  | none =>
    return {
      scheme := scheme.map Char.toLower
      userinfo := user
      host := name
      port := number
      path := Percent.encode inPath (if hasScheme || hasAuthority then resolveDots path else path)
      query := query.map (Percent.encode inQuery)
      fragment := fragment.map (Percent.encode inFragment) }

/-! ### Cutting an address into its parts -/

/-- May the character stand in a scheme after its first letter? -/
def inScheme (c : Char) : Bool := c.isAlphanum || c == '+' || c == '.' || c == '-'

/-- The scheme at the front of an address, which may be empty, and the rest. -/
def splitScheme (t : Text) : Text × Text :=
  let scheme := if (t.head?.map Char.isAlpha).getD false then t.takeWhile inScheme else []
  match t.drop scheme.length with
  | ':' :: rest => (scheme, rest)
  | _ => ([], t)

/-- The authority at the front of an address, and the rest. -/
def splitAuthority (t : Text) : Text × Text :=
  match t with
  | '/' :: '/' :: rest => rest.span fun c => !(c == '/' || c == '?' || c == '#')
  | _ => ([], t)

/-- The user, the host and the port of an authority. The user reaches to the last `@`. -/
def authorityParts (authority : Text) : Text × Text × Option Text :=
  let rest := (authority.reverse.takeWhile (· != '@')).reverse
  let user := authority.take (authority.length - rest.length - 1)
  -- brackets reach to the last closing one; else the host ends before a colon
  let bracketed := (rest.reverse.dropWhile (· != ']')).reverse
  let host :=
    if rest.head? = some '[' && 1 < bracketed.length then bracketed else rest.takeWhile (· != ':')
  match rest.drop host.length with
  | [] => (user, host, none)
  | ':' :: port => (user, host, some port)
  | port => (user, host, some port)

/-- The text before the first separator, and the text after it, if there is one. -/
def before (sep : Char) (t : Text) : Text × Option Text :=
  match Text.cut sep t with
  | some (a, b) => (a, some b)
  | none => (t, none)

/-- The address that a text spells. -/
def parse (t : Text) : Except Fault Url := do
  check none t
  let (scheme, rest) := splitScheme t
  let (authority, rest) := splitAuthority rest
  let (rest, fragment) := before '#' rest
  let (path, query) := before '?' rest
  let (user, host, port) := authorityParts authority
  ofParts scheme user host port path query fragment

/-! ### The text of an address -/

/-- Host and port, as a request names them. -/
def netloc (u : Url) : Text :=
  (if u.host.contains ':' then ['['] ++ u.host ++ [']'] else u.host) ++
    (match u.port with
      | none => []
      | some n => ':' :: Text.ofInt n)

/-- User, host and port. -/
def authority (u : Url) : Text :=
  (if u.userinfo = [] then [] else u.userinfo ++ ['@']) ++ u.netloc

/-- A part that follows its mark, if there is one. -/
def marked (mark : Char) : Option Text → Text
  | none => []
  | some t => mark :: t

/-- The text of an address. -/
def text (u : Url) : Text :=
  (if u.scheme = [] then [] else u.scheme ++ [':']) ++
    (if u.authority = [] then [] else ['/', '/'] ++ u.authority) ++
    u.path ++ marked '?' u.query ++ marked '#' u.fragment

/-- The path and the query, as a request line names them. -/
def target (u : Url) : Text := (if u.path = [] then ['/'] else u.path) ++ marked '?' u.query

/-- The host as it is read: a name that starts in the coded form stands in its own characters. -/
def plainHost (u : Url) : Except HostName.Fault Text :=
  if u.host.startsWith Label.lead then HostName.decode u.host else .ok u.host

/-- The port, or the usual one of a scheme of the web. -/
def reachedPort? (u : Url) : Option Int :=
  u.port.or (if u.scheme = "http".toList || u.scheme = "https".toList then usualPort? u.scheme
    else none)

/-- The scheme, the host and the port to which the address leads. -/
def origin (u : Url) : Except HostName.Fault (Text × Text × Option Int) :=
  u.plainHost.map fun host => (u.scheme, host, u.reachedPort?)

/-- Does a kind of address come first, with a colon after it? -/
def hasKind (u : Url) : Bool :=
  (u.text.dropWhile fun c => !(c == '/' || c == ':')).head? == some ':'

/-- Does the address name a scheme and a host? -/
def isAbsolute (u : Url) : Bool := u.scheme != [] && u.host != []

/-- The address with the parts of its authority given anew. -/
def rebuild (u : Url) (host : Option Text) (path : Text) (query fragment : Option Text) :
    Except Fault Url := do
  check (some "path".toList) path
  check (some "query".toList) (query.getD [])
  check (some "fragment".toList) (fragment.getD [])
  let (user, ownHost, port) := authorityParts u.authority
  ofParts u.scheme user (host.getD ownHost) port path query fragment

/-- The address with another path and query. -/
def withTarget (u : Url) (target : Text) : Except Fault Url :=
  let (path, query) := before '?' target
  u.rebuild none path query u.fragment

/-- The address with another host. -/
def withHost (u : Url) (host : Text) : Except Fault Url :=
  u.rebuild (some (if host.contains ':' then ['['] ++ host ++ [']'] else host)) u.path u.query
    u.fragment

/-- The address with another fragment, given as it is read. -/
def withFragment (u : Url) (fragment : Text) : Except Fault Url :=
  u.rebuild none u.path u.query (some fragment)

/-- The fragment as it is read: its percent sequences decoded. -/
def plainFragment (u : Url) : Text := Utf8.decodeLossy (Percent.octets (u.fragment.getD []))

end Url
end Courier
