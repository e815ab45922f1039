import TypeGraph.Host.Address
import TypeGraph.Host.Domain
import TypeGraph.Http.Url

/-!
# Addresses of resources

A resource is named by an absolute address: a scheme, a colon and the rest.  The rest is free but
for its authority, which must have a sound host and number of a port.  The schemes of the web always
have a host; a file may have one; other schemes have one behind two slashes.  Tabs and line ends
count for nothing.
-/

namespace TypeGraph.Resource

/-- An address without controls and blanks at its ends and without tabs and line ends. -/
def cleaned (s : List Char) : List Char :=
  let isOuter (c : Char) : Bool := c.toNat ≤ 0x20
  let inner := ((s.dropWhile isOuter).reverse.dropWhile isOuter).reverse
  inner.filter fun c => c ≠ '\t' && c ≠ '\n' && c ≠ '\r'

/-- The scheme of an address in lower case, and the rest behind its colon. -/
def splitScheme? (s : List Char) : Option (String × List Char) :=
  let isSchemeChar (c : Char) : Bool := c.isAlphanum || c = '+' || c = '-' || c = '.'
  match s.dropWhile isSchemeChar with
  | ':' :: rest =>
    if s.head?.any Char.isAlpha then
      some (String.ofList ((s.takeWhile isSchemeChar).map Char.toLower), rest)
    else none
  | _ => none

def webSchemes : List String := ["http", "https", "ws", "wss", "ftp"]

/-! ## Hosts -/

/-- Whether a text in brackets is an address of groups, without a zone. -/
def isBracketed (host : List Char) : Bool :=
  host.getLast? = some ']' && !host.contains '%' && Host.isIpv6 (host.drop 1).dropLast

def isDelimiter (c : Char) : Bool := "\x00\t\n\r #/:<>?@[\\]^|".toList.contains c

/-- The number that a part of a numeric address stands for: in base 16 behind `0x`, in base 8 behind
a zero, else in base 10. -/
def partNumber? (part : List Char) : Option Nat :=
  let digitsOf (base : Nat) (s : List Char) : Option Nat :=
    s.foldlM (fun n c => (Url.hexDigit? c).bind fun d =>
      if d < base then some (base * n + d) else none) 0
  match part with
  | [] => none
  | '0' :: 'x' :: rest | '0' :: 'X' :: rest => digitsOf 16 rest
  | '0' :: c :: rest => digitsOf 8 (c :: rest)
  | part => digitsOf 10 part

/-- The labels of a name; nothing behind a dot at its end is none. -/
def nameLabels (labels : List (List Char)) : List (List Char) :=
  if labels.getLast? = some [] then labels.dropLast else labels

/-- Whether a name has to be a numeric address: its last label is a number. -/
def endsInNumber (labels : List (List Char)) : Bool :=
  match (nameLabels labels).getLast? with
  | none | some [] => false
  | some last => last.all Char.isDigit || (partNumber? last).isSome

/-- Whether a name is a numeric address of at most four parts.  Each but the last is one byte, and
the last fills the bytes that are left. -/
def isNumeric (labels : List (List Char)) : Bool :=
  match (nameLabels labels).mapM partNumber? with
  | none => false
  | some numbers =>
    numbers.length ≤ 4 && numbers.dropLast.all (· < 256) &&
      numbers.getLast?.all (· < Nat.pow 256 (5 - numbers.length))

/-- Whether a text is the name of a host on the web, or its address. -/
def isWebHost (host : List Char) : Bool :=
  if host.head? = some '[' then isBracketed host
  else
    match Host.Domain.read? (Text.CodePoints.ofString (Url.percentDecode host)) with
    | none => false
    | some codes =>
      let labels := codes.map fun label => label.map Char.ofNat
      labels ≠ [[]] && (!endsInNumber labels || isNumeric labels)

/-- Whether a text is the name of any other host, which may be empty. -/
def isOtherHost (host : List Char) : Bool :=
  if host.head? = some '[' then isBracketed host else !host.any isDelimiter

/-! ## Authorities -/

/-- Splits an authority at the colon in front of its number of a port; colons in brackets do not
count. -/
def splitHost (inside : Bool) : List Char → List Char × Option (List Char)
  | [] => ([], none)
  | c :: rest =>
    if c = ':' ∧ !inside then ([], some rest)
    else
      let inside := if c = '[' then true else if c = ']' then false else inside
      let (host, rest) := splitHost inside rest
      (c :: host, rest)

/-- Whether a text starts with the number of a port, or nothing, up to a backslash or its end. -/
def isPortNumber (s : List Char) : Bool :=
  let digits := s.takeWhile (· ≠ '\\')
  digits.all Char.isDigit && (digits.foldl (fun n c => 10 * n + (c.toNat - 0x30)) 0) < 65536

/-- Whether an authority is sound, which the text behind it ends.  One without a host has neither a
user nor a number of a port. -/
def isAuthority (web : Bool) (authority behind : List Char) : Bool :=
  let reversed := authority.reverse
  let place := (reversed.takeWhile (· ≠ '@')).reverse
  let user := if authority.contains '@' then
      some ((reversed.dropWhile (· ≠ '@')).drop 1).reverse
    else none
  let (host, number) := splitHost false place
  let isSound := if web then isWebHost host else isOtherHost host
  isSound && number.all isPortNumber &&
    (host ≠ [] || (number.isNone &&
      (match user with
        | none => true
        | some [] => behind = []
        | some user => user = [':'])))

/-- Whether a text behind two slashes starts with a sound authority. -/
def startsWithAuthority (web : Bool) (s : List Char) : Bool :=
  let isInside (c : Char) : Bool := c ≠ '/' && c ≠ '?' && c ≠ '#' && !(web && c = '\\')
  isAuthority web (s.takeWhile isInside) (s.dropWhile isInside)

def isSlash (c : Char) : Bool := c = '/' || c = '\\'

def isDrive : List Char → Bool
  | [letter, mark] => letter.isAlpha && (mark = ':' || mark = '|')
  | _ => false

/-- Whether the address of a file goes on soundly behind its scheme. -/
def isFileRest : List Char → Bool
  | a :: b :: rest =>
    if isSlash a && isSlash b then
      let host := rest.takeWhile fun c => !isSlash c && c ≠ '?' && c ≠ '#'
      host = [] || isDrive host || isWebHost host
    else true
  | _ => true

def isAddress (s : String) : Bool :=
  match splitScheme? (cleaned s.toList) with
  | none => false
  | some (scheme, rest) =>
    if scheme = "file" then isFileRest rest
    else if webSchemes.contains scheme then startsWithAuthority true (rest.dropWhile isSlash)
    else
      match rest with
      | '/' :: '/' :: rest => startsWithAuthority false rest
      | _ => true

end TypeGraph.Resource
