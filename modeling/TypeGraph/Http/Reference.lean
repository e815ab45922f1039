import TypeGraph.Host.Address
import TypeGraph.Text.Quoted

/-!
# Resolving references

A reference stands for an address relative to that of the page that holds it.  Only addresses of
known schemes are taken apart for that.  A path may end in parameters behind a semicolon, which
belong to its last segment.  What stands in brackets in an authority must be the address of a host.
-/

namespace TypeGraph

inductive BracketError where
  /-- A bracket stands without the other one. -/
  | unpaired
  /-- An address of a version to come does not have the form of one. -/
  | version
  /-- An address of four numbers needs no brackets. -/
  | ipv4
  /-- The text is no address. -/
  | address (text : String)
deriving DecidableEq, Repr

def BracketError.message : BracketError → String
  | .unpaired => "Invalid IPv6 URL"
  | .version => "IPvFuture address is invalid"
  | .ipv4 => "An IPv4 address cannot be in brackets"
  | .address text => Text.quoted text ++ " does not appear to be an IPv4 or IPv6 address"

/-- The parts of a reference as text; absent parts are empty. -/
structure Reference where
  scheme : String := ""
  authority : String := ""
  path : String := ""
  parameters : String := ""
  query : String := ""
  fragment : String := ""
deriving DecidableEq, Repr

namespace Reference

def relativeSchemes : List String :=
  ["", "ftp", "http", "gopher", "nntp", "imap", "wais", "file", "https", "shttp", "mms",
   "prospero", "rtsp", "rtspu", "sftp", "svn", "svn+ssh", "ws", "wss"]

def authoritySchemes : List String :=
  ["", "ftp", "http", "gopher", "nntp", "telnet", "imap", "wais", "file", "mms", "https", "shttp",
   "snews", "prospero", "rtsp", "rtspu", "rsync", "svn", "svn+ssh", "sftp", "nfs", "git", "git+ssh",
   "ws", "wss"]

def parameterSchemes : List String :=
  ["", "ftp", "hdl", "prospero", "http", "imap", "https", "shttp", "rtsp", "rtspu", "sip",
   "sips", "mms", "sftp", "tel"]

def splitFirst (c : Char) (s : List Char) : List Char × List Char :=
  (s.takeWhile (· ≠ c), (s.dropWhile (· ≠ c)).drop 1)

def splitScheme? (s : List Char) : Option (List Char × List Char) :=
  let isPart (c : Char) : Bool := c.isAlphanum || c = '+' || c = '-' || c = '.'
  let (scheme, rest) := splitFirst ':' s
  if s.contains ':' && scheme.head?.any Char.isAlpha && scheme.all isPart then some (scheme, rest)
  else none

def splitParameters (path : List Char) : List Char × List Char :=
  let last := (path.reverse.takeWhile (· ≠ '/')).reverse
  let (_, parameters) := splitFirst ';' last
  if last.contains ';' then (path.take (path.length - parameters.length - 1), parameters)
  else (path, [])

/-- Takes a text apart; without a scheme of its own it has the given one. -/
def ofText (scheme text : String) : Reference :=
  let (scheme, s) := match splitScheme? text.toList with
    | some (own, rest) => (String.ofList (own.map Char.toLower), rest)
    | none => (scheme, text.toList)
  let stops := ['/', '?', '#']
  let (authority, s) := match s with
    | '/' :: '/' :: rest => (rest.takeWhile (!stops.contains ·), rest.dropWhile (!stops.contains ·))
    | rest => ([], rest)
  let (s, fragment) := splitFirst '#' s
  let (path, query) := splitFirst '?' s
  let (path, parameters) :=
    if parameterSchemes.contains scheme then splitParameters path else (path, [])
  { scheme
    authority := String.ofList authority
    path := String.ofList path
    parameters := String.ofList parameters
    query := String.ofList query
    fragment := String.ofList fragment }

/-- Whether a text behind a letter `v` has the form of an address of a version to come: hexadecimal
digits, a dot and something. -/
def isVersioned (s : List Char) : Bool :=
  let isHex (c : Char) : Bool := c.isDigit || ('a' ≤ c.toLower && c.toLower ≤ 'f')
  s.head?.any isHex &&
    (match s.dropWhile isHex with
      | '.' :: rest => rest ≠ [] && !rest.contains '\n'
      | _ => false)

def checkBracketed (host : List Char) : Except BracketError Unit :=
  match host with
  | 'v' :: rest => if isVersioned rest then .ok () else .error .version
  | host =>
    if Host.isIpv4 host then .error .ipv4
    else if Host.isIpv6 host then .ok ()
    else .error (.address (String.ofList host))

/-- Checks the brackets of an authority.  Nothing stands in front of the opening one, and only a
port behind the closing one; brackets among the user information call for such a host too. -/
def checkBrackets (authority : List Char) : Except BracketError Unit :=
  if authority.contains '[' ≠ authority.contains ']' then .error .unpaired
  else if !authority.contains '[' then .ok ()
  else
    let place := (authority.reverse.takeWhile (· ≠ '@')).reverse
    match splitFirst '[' place with
    | (front, bracketed) =>
      if !place.contains '[' then checkBracketed (splitFirst ':' place).1
      else
        let (host, port) := splitFirst ']' bracketed
        if front ≠ [] ∨ (port ≠ [] ∧ port.head? ≠ some ':') then .error .unpaired
        else checkBracketed host

def read (scheme text : String) : Except BracketError Reference := do
  let r := ofText scheme text
  checkBrackets r.authority.toList
  return r

/-- Puts the parts together; empty ones leave no mark. -/
def text (r : Reference) : String :=
  let path := if r.parameters = "" then r.path else r.path ++ ";" ++ r.parameters
  let hasAuthority :=
    r.authority ≠ "" || (r.scheme ≠ "" && authoritySchemes.contains r.scheme) ||
      ['/', '/'].isPrefixOf path.toList
  let rooted := if path = "" || path.toList.head? = some '/' then path else "/" ++ path
  (if r.scheme = "" then "" else r.scheme ++ ":") ++
    (if hasAuthority then "//" ++ r.authority ++ rooted else path) ++
    (if r.query = "" then "" else "?" ++ r.query) ++
    (if r.fragment = "" then "" else "#" ++ r.fragment)

/-- The path that a relative path leads to.  Empty segments inside a joined path vanish. -/
def joinPath (base path : List Char) : List Char :=
  let parts :=
    if path.head? = some '/' then path.splitOn '/'
    else
      let folder := base.splitOn '/'
      let folder := if folder.getLast? = some [] then folder else folder.dropLast
      match folder ++ path.splitOn '/' with
      | [] => []
      | first :: rest => first :: (rest.dropLast.filter (· ≠ []) ++ rest.getLast?.toList)
  let step (done : List (List Char)) (segment : List Char) : List (List Char) :=
    if segment = ['.', '.'] then done.drop 1 else if segment = ['.'] then done else segment :: done
  let resolved := (parts.foldl step []).reverse
  let last := parts.getLast?.getD []
  let resolved := if last = ['.'] ∨ last = ['.', '.'] then resolved ++ [[]] else resolved
  match ['/'].intercalate resolved with
  | [] => ['/']
  | joined => joined

def join (base reference : String) : Except BracketError String :=
  if base = "" then .ok reference
  else if reference = "" then .ok base
  else do
    let b ← read "" base
    let r ← read b.scheme reference
    if r.scheme ≠ b.scheme ∨ !relativeSchemes.contains r.scheme then return reference
    else if authoritySchemes.contains r.scheme ∧ r.authority ≠ "" then return r.text
    else
      let r := if authoritySchemes.contains r.scheme then { r with authority := b.authority } else r
      if r.path = "" ∧ r.parameters = "" then
        return { r with
          path := b.path
          parameters := b.parameters
          query := if r.query = "" then b.query else r.query }.text
      else return { r with path := String.ofList (joinPath b.path.toList r.path.toList) }.text

end Reference

end TypeGraph
