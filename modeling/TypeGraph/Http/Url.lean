import TypeGraph.Host.Address
import TypeGraph.Host.Label
import TypeGraph.Number.Integer
import TypeGraph.Text.Case
import TypeGraph.Text.Utf8

/-!
# Addresses of web resources

An address has a scheme, an authority with user, host and port, a path, a query and a fragment.  All
of them are kept in the form in which they are sent: what may not stand in a part is written as
percent escapes, and a host outside ASCII in its ASCII form.
-/

namespace TypeGraph

/-- A web address.  A query or fragment that is absent differs from an empty one. -/
structure Url where
  scheme : String := ""
  userInfo : String := ""
  host : String := ""
  port : Option Int := none
  path : String := ""
  query : Option String := none
  fragment : Option String := none
deriving DecidableEq, Repr

inductive UrlError where
  | tooLong
  | componentTooLong (component : String)
  | control (c : Char) (position : Nat)
  | componentControl (component : String) (c : Char) (position : Nat)
  | portNumber (text : String)
  /-- What looks like an address of four numbers and is none. -/
  | ipv4 (host : String)
  /-- What stands in brackets and is no address of groups. -/
  | ipv6 (host : String)
  /-- A host outside ASCII that is no host name. -/
  | hostName (host : String)
  /-- The path of an address with a host does not start with a slash. -/
  | pathUnrooted
  /-- The path of a relative reference starts with two slashes. -/
  | pathDoubleSlash
  /-- The path of a relative reference starts with a colon. -/
  | pathColon
deriving DecidableEq, Repr

def UrlError.message : UrlError → String
  | .tooLong => "URL too long"
  | .componentTooLong component => s!"URL component '{component}' too long"
  | .control c position =>
    let shown := Text.quoted (String.singleton c)
    s!"Invalid non-printable ASCII character in URL, {shown} at position {position}."
  | .componentControl component c position =>
    let shown := Text.quoted (String.singleton c)
    s!"Invalid non-printable ASCII character in URL {component} component, {shown} at position " ++
      s!"{position}."
  | .portNumber text => "Invalid port: " ++ Text.quoted text
  | .ipv4 host => "Invalid IPv4 address: " ++ Text.quoted host
  | .ipv6 host => "Invalid IPv6 address: " ++ Text.quoted host
  | .hostName host => "Invalid IDNA hostname: " ++ Text.quoted host
  | .pathUnrooted => "For absolute URLs, path must be empty or begin with '/'"
  | .pathDoubleSlash => "Relative URLs cannot have a path starting with '//'"
  | .pathColon => "Relative URLs cannot have a path starting with ':'"

namespace Url

def maxLength : Nat := 65536

/-- The first control character of a text, with its position. -/
def firstControl? (s : List Char) : Option (Char × Nat) :=
  (s.zipIdx).find? fun (c, _) => c.toNat < 0x20 || c.toNat = 0x7F

/-! ## Escapes -/

def isVisible (c : Char) : Bool := 0x20 < c.toNat && c.toNat < 0x7F

def isFragmentChar (c : Char) : Bool :=
  isVisible c && c ≠ '"' && c ≠ '<' && c ≠ '>' && c.toNat ≠ 0x60

def isQueryChar (c : Char) : Bool := isVisible c && c ≠ '"' && c ≠ '#' && c ≠ '<' && c ≠ '>'

def isPathChar (c : Char) : Bool :=
  isQueryChar c && c ≠ '?' && c.toNat ≠ 0x60 && c.toNat ≠ 0x7B && c.toNat ≠ 0x7D

def isUserChar (c : Char) : Bool := isPathChar c && !"/;=@[\\]^|".toList.contains c

def isHostChar (c : Char) : Bool :=
  c.isAlphanum || "-._~!$&'()*+,;=\"%|\\".toList.contains c || c.toNat = 0x60 || c.toNat = 0x7B ||
    c.toNat = 0x7D

def escapeByte (b : UInt8) : List Char := '%' :: (Text.hexDigits 2 b.toNat).map Char.toUpper

/-- A text with the characters outside a class escaped; escapes that are there stay. -/
def escape (isSafe : Char → Bool) (s : List Char) : String :=
  String.ofList (s.flatMap fun c =>
    if isSafe c then [c] else (Utf8.encode (String.singleton c)).flatMap escapeByte)

def hexDigit? (c : Char) : Option Nat :=
  if c.isDigit then some (c.toNat - 0x30)
  else if 'a' ≤ c ∧ c ≤ 'f' then some (c.toNat - 0x57)
  else if 'A' ≤ c ∧ c ≤ 'F' then some (c.toNat - 0x37)
  else none

def percentBytes : List Char → List UInt8
  | [] => []
  | '%' :: a :: b :: rest =>
    match hexDigit? a, hexDigit? b with
    | some x, some y => (x * 16 + y).toUInt8 :: percentBytes rest
    | _, _ => 0x25 :: percentBytes (a :: b :: rest)
  | c :: rest => Utf8.encode (String.singleton c) ++ percentBytes rest
termination_by s => s.length

def percentDecode (s : List Char) : String := Utf8.decodeLossy (percentBytes s)

def queryText (s : List Char) : String := percentDecode (s.map fun c => if c = '+' then ' ' else c)

/-- Gathers the values of equal keys at the place of the first one. -/
def groupKeys : Nat → List (String × String) → List (String × String)
  | 0, _ => []
  | _, [] => []
  | fuel + 1, (key, value) :: rest =>
    (key, value) :: rest.filter (·.1 = key) ++ groupKeys fuel (rest.filter (·.1 ≠ key))

def queryParams (query : List Char) : List (String × String) :=
  let parts := (query.splitOn '&').filter (· ≠ [])
  let pairs := parts.map fun part =>
    (queryText (part.takeWhile (· ≠ '=')), queryText ((part.dropWhile (· ≠ '=')).drop 1))
  groupKeys pairs.length pairs

/-! ## Host and port -/

/-- Whether a text is four runs of digits with dots between them. -/
def looksLikeIpv4 (s : List Char) : Bool :=
  let parts := s.splitOn '.'
  parts.length = 4 && parts.all fun part => part ≠ [] && part.all Char.isDigit

/-- A host in the form in which it is sent.  What looks like an address in numbers has to be one. -/
def encodeHost (host : List Char) : Except UrlError String :=
  let text := String.ofList host
  if host = [] then .ok ""
  else if looksLikeIpv4 host then if Host.isIpv4 host then .ok text else .error (.ipv4 text)
  else if host.head? = some '[' ∧ host.getLast? = some ']' ∧ 1 < host.length then
    let inner := (host.drop 1).dropLast
    if Host.isIpv6 inner then .ok (String.ofList inner) else .error (.ipv6 text)
  else if host.all (·.toNat < 0x80) then .ok (escape isHostChar (host.map Char.toLower))
  else
    match Host.encodeName (Text.lowerCodes (host.map Char.toNat)) with
    | .ok codes => .ok (String.ofList (codes.map Char.ofNat))
    | .error _ => .error (.hostName text)

def defaultPort? (scheme : String) : Option Int :=
  [("ftp", 21), ("http", 80), ("https", 443), ("ws", 80), ("wss", 443)].lookup scheme

/-- The port of an address, unless it is the one of the scheme. -/
def readPort (scheme : String) (port : List Char) : Except UrlError (Option Int) :=
  if port = [] then .ok none
  else
    match Integer.read 10 (Text.CodePoints.ofChars port) with
    | .ok n => .ok (if defaultPort? scheme = some n then none else some n)
    | .error _ => .error (.portNumber (String.ofList port))

def splitAuthority (s : List Char) : List Char × List Char × List Char :=
  let (user, s) :=
    if s.contains '@' then
      (((s.reverse.dropWhile (· ≠ '@')).drop 1).reverse, (s.reverse.takeWhile (· ≠ '@')).reverse)
    else ([], s)
  let bracketed := (s.reverse.dropWhile (· ≠ ']')).reverse
  let host := if s.head? = some '[' ∧ bracketed ≠ [] then bracketed else s.takeWhile (· ≠ ':')
  let port := match s.drop host.length with
    | ':' :: rest => rest
    | rest => rest
  (user, host, port)

/-! ## Paths -/

/-- Removes the segments `.` and `..`; the latter takes the segment before it along. -/
def removeDots : List (List Char) → List (List Char) → List (List Char)
  | done, [] => done.reverse
  | done, ['.'] :: rest => removeDots done rest
  | done, ['.', '.'] :: rest =>
    removeDots (if done = [] ∨ done = [[]] then done else done.drop 1) rest
  | done, segment :: rest => removeDots (segment :: done) rest

/-- A path without `.` and `..`. -/
def normalizePath (path : List Char) : List Char :=
  ['/'].intercalate (removeDots [] (path.splitOn '/'))

def checkPath (hasScheme hasAuthority : Bool) (path : List Char) : Except UrlError Unit := do
  if hasAuthority ∧ path ≠ [] ∧ path.head? ≠ some '/' then throw .pathUnrooted
  if !hasScheme ∧ !hasAuthority then
    if ['/', '/'].isPrefixOf path then throw .pathDoubleSlash
    if path.head? = some ':' then throw .pathColon

/-! ## Reading and writing -/

structure Written where
  scheme : List Char := []
  authority : List Char := []
  /-- A host that goes before the one of the authority. -/
  host : Option (List Char) := none
  path : List Char := []
  query : Option (List Char) := none
  fragment : Option (List Char) := none

def ofWritten (w : Written) : Except UrlError Url := do
  let (user, host, port) := splitAuthority w.authority
  let userInfo := escape isUserChar user
  let host ← encodeHost (w.host.getD host)
  let port ← readPort (String.ofList w.scheme) port
  let hasScheme := w.scheme ≠ []
  let hasAuthority := userInfo ≠ "" || host ≠ "" || port.isSome
  checkPath hasScheme hasAuthority w.path
  let path := if hasScheme || hasAuthority then normalizePath w.path else w.path
  return {
    scheme := String.ofList (w.scheme.map Char.toLower)
    userInfo
    host
    port
    path := escape isPathChar path
    query := w.query.map (escape isQueryChar)
    fragment := w.fragment.map (escape isFragmentChar) }

/-- The scheme in front of a colon, which may be empty, and the rest. -/
def splitScheme (s : List Char) : List Char × List Char :=
  let isNext (c : Char) : Bool := c.isAlphanum || c = '+' || c = '.' || c = '-'
  let scheme := if s.head?.any Char.isAlpha then s.takeWhile isNext else []
  match s.drop scheme.length with
  | ':' :: rest => (scheme, rest)
  | _ => ([], s)

/-- The text behind a mark, up to the first of some others. -/
def behindMark (mark : Char) (stops : List Char) (s : List Char) : Option (List Char) × List Char :=
  match s with
  | c :: rest =>
    if c = mark then
      (some (rest.takeWhile (!stops.contains ·)), rest.dropWhile (!stops.contains ·))
    else (none, s)
  | [] => (none, s)

def Written.ofText (s : List Char) : Written :=
  let (scheme, s) := splitScheme s
  let stops := ['/', '?', '#']
  let (authority, s) := match s with
    | '/' :: '/' :: rest => (rest.takeWhile (!stops.contains ·), rest.dropWhile (!stops.contains ·))
    | rest => ([], rest)
  let path := s.takeWhile fun c => c ≠ '?' && c ≠ '#'
  let (query, s) := behindMark '?' ['#'] (s.drop path.length)
  let (fragment, _) := behindMark '#' [] s
  { scheme, authority, path, query, fragment }

def parse (text : String) : Except UrlError Url := do
  let s := text.toList
  if maxLength < s.length then throw .tooLong
  if let some (c, position) := firstControl? s then throw (.control c position)
  ofWritten (.ofText s)

/-- Host and port. -/
def place (u : Url) : String :=
  (if u.host.toList.contains ':' then "[" ++ u.host ++ "]" else u.host) ++
    ((u.port.map fun n => ":" ++ toString n).getD "")

/-- User, host and port. -/
def authority (u : Url) : String :=
  (if u.userInfo = "" then "" else u.userInfo ++ "@") ++ u.place

def text (u : Url) : String :=
  (if u.scheme = "" then "" else u.scheme ++ ":") ++
    (if u.authority = "" then "" else "//" ++ u.authority) ++ u.path ++
    ((u.query.map ("?" ++ ·)).getD "") ++ ((u.fragment.map ("#" ++ ·)).getD "")

def written (u : Url) : Written where
  scheme := u.scheme.toList
  authority := u.authority.toList
  path := u.path.toList
  query := u.query.map String.toList
  fragment := u.fragment.map String.toList

/-- The address of changed parts, none of which may be too long or hold a control character. -/
def ofChanged (w : Written) : Except UrlError Url := do
  let check (name : String) (s : List Char) : Except UrlError Unit :=
    if maxLength < s.length then .error (.componentTooLong name)
    else
      match firstControl? s with
      | some (c, position) => .error (.componentControl name c position)
      | none => .ok ()
  check "scheme" w.scheme
  check "authority" w.authority
  check "path" w.path
  check "query" (w.query.getD [])
  check "fragment" (w.fragment.getD [])
  check "host" (w.host.getD [])
  ofWritten w

/-- The host as it is shown: a name whose ASCII form starts with `xn--` is read back. -/
def shownHost (u : Url) : Except Host.NameError String :=
  let codes := Text.CodePoints.ofString u.host
  if !Host.startsForm codes then .ok u.host
  else (Host.decodeName codes).map fun name => String.ofList (name.map Char.ofNat)

/-- The path as it is shown; the empty path is the root. -/
def shownPath (u : Url) : String := if u.path = "" then "/" else percentDecode u.path.toList

def params (u : Url) : List (String × String) := queryParams (u.query.getD "").toList

def isRelative (u : Url) : Bool := u.scheme = "" || u.host = ""

/-- A relative address as one from the root of an unnamed host; any other address stays. -/
def rooted (u : Url) : Except UrlError Url :=
  if !u.isRelative then .ok u
  else
    ofChanged
      { path := '/' :: u.path.toList.dropWhile (· = '/')
        query := u.query.map String.toList }

def withQuery (u : Url) (query : Option String) : Except UrlError Url :=
  ofChanged { u.written with query := query.map String.toList }

def withHost (u : Url) (host : String) : Except UrlError Url :=
  let bracketed := if host.toList.contains ':' then "[" ++ host ++ "]" else host
  ofChanged { u.written with host := some bracketed.toList }

def withFragment (u : Url) (fragment : String) : Except UrlError Url :=
  ofChanged { u.written with fragment := some fragment.toList }

def shownFragment (u : Url) : String := percentDecode (u.fragment.getD "").toList

/-- Whether an address names its type: something other than slashes and colons, and a colon.  What
stands behind the last number sign does not count. -/
def namesType (u : Url) : Bool :=
  let s := u.text.toList
  let s := if s.contains '#' then ((s.reverse.dropWhile (· ≠ '#')).drop 1).reverse else s
  match s.dropWhile fun c => c ≠ '/' && c ≠ ':' with
  | ':' :: _ => s.head? ≠ some ':'
  | _ => false

/-- The message about an address that does not name its type; an empty fragment is not shown. -/
def unknownTypeMessage (u : Url) : String :=
  let s := u.text.toList
  let shown := if s.getLast? = some '#' then s.dropLast else s
  "unknown url type: " ++ Text.quoted (String.ofList shown)

end Url

end TypeGraph
