import TypeGraph.Http.Expiry

/-!
# Cookies as they are written

A header writes a cookie as a name with a value, and attributes behind it.  In the plain form
semicolons divide a header, which holds one cookie.  In the quoted form values may stand in quotes,
and commas divide the cookies of a header.
-/

namespace TypeGraph

inductive CookieAttribute where
  | version (number : Option String)
  /-- The moment at which the cookie lapses; none if it is not known. -/
  | expires (moment : Option Int)
  /-- A moment that is not read. -/
  | expiresUnread
  | maxAge (seconds : Option String)
  | domain (name : Option String)
  | path (path : Option String)
  | port (ports : Option String)
  | secure (value : Option String)
  | other
deriving DecidableEq, Repr

/-- The attribute of a name and value, where dates are not read.  The case of a name does not
count. -/
def CookieAttribute.ofPair (name : String) (value : Option String) : CookieAttribute :=
  match name.toLower with
  | "version" => .version value
  | "expires" => if value.isSome then .expiresUnread else .expires none
  | "max-age" => .maxAge value
  | "domain" => .domain (value.map String.toLower)
  | "path" => .path value
  | "port" => .port value
  | "secure" => .secure value
  | _ => .other

structure WrittenCookie where
  name : String
  attributes : List CookieAttribute
deriving DecidableEq, Repr

namespace WrittenCookie

/-! ## The plain form -/

/-- A name and a value, without the blanks around them; what has no equals sign has no value. -/
def pair (part : List Char) : String × Option String :=
  let name := String.ofList (Text.trim (part.takeWhile (· ≠ '=')))
  let value := String.ofList (Text.trim ((part.dropWhile (· ≠ '=')).drop 1))
  (name, if part.contains '=' then some value else none)

def unquoted (s : String) : String :=
  let s := s.toList
  let s := if s.head? = some '"' then s.drop 1 else s
  String.ofList (if s.getLast? = some '"' then s.dropLast else s)

/-- The attribute of a name and value in the plain form, where dates are read, and dates and
versions may stand in quotes. -/
def plainAttribute (name : String) (value : Option String) : Except CookieFault CookieAttribute :=
  match CookieAttribute.ofPair name value with
  | .version number => .ok (.version (number.map unquoted))
  | .expiresUnread => (Expiry.read (unquoted (value.getD "")).toList).map .expires
  | read => .ok read

/-- The cookie of a header in the plain form; none if it has no name.  Its version is zero unless it
says otherwise. -/
def ofPlain (header : String) : Except CookieFault (Option WrittenCookie) :=
  match (header.toList.splitOn ';').map pair with
  | [] => .ok none
  | (name, _) :: rest =>
    if name = "" then .ok none
    else do
      let pairs := rest.filter (·.1 ≠ "")
      let attributes ← pairs.mapM fun (name, value) => plainAttribute name value
      return some ⟨name, attributes ++ [.version (some "0")]⟩

/-! ## The quoted form -/

/-- The text in quotes at the start of a text, behind the opening quote, and the rest.  A backslash
takes the next character as it is, and a line end cannot follow it. -/
def splitQuoted? : List Char → Option (List Char × List Char)
  | [] => none
  | '"' :: rest => some ([], rest)
  | '\\' :: c :: rest =>
    if c = '\n' then none else (splitQuoted? rest).map fun (text, rest) => (c :: text, rest)
  | c :: rest => (splitQuoted? rest).map fun (text, rest) => (c :: text, rest)

/-- The value behind a name, if there is an equals sign, and the rest. -/
def splitValue (s : List Char) : Option String × List Char :=
  match Text.trimStart s with
  | '=' :: rest =>
    let rest := Text.trimStart rest
    let plain := rest.takeWhile fun c => !Text.isBlank c && c ≠ ';' && c ≠ ','
    let quoted := match rest with
      | '"' :: inside => splitQuoted? inside
      | _ => none
    match quoted with
    | some (text, rest) => (some (String.ofList text), rest)
    | none => (some (String.ofList plain), rest.drop plain.length)
  | _ => (none, s)

def ofPairs? (pairs : List (String × Option String)) : Option WrittenCookie :=
  match pairs.reverse with
  | [] => none
  | (name, _) :: rest => some ⟨name, rest.map fun (name, value) => .ofPair name value⟩

/-- The cookies of a header in the quoted form, where `pairs` is what was read of the first one.
Every step takes a character at least, so that `fuel` suffices if it exceeds the length. -/
def quotedFrom : Nat → List (String × Option String) → List Char → List WrittenCookie
  | 0, pairs, _ => (ofPairs? pairs).toList
  | fuel + 1, pairs, s =>
    let isName (c : Char) : Bool := !Text.isBlank c && c ≠ '=' && c ≠ ';' && c ≠ ','
    let trimmed := Text.trimStart s
    let name := trimmed.takeWhile isName
    if name ≠ [] then
      let (value, rest) := splitValue (trimmed.drop name.length)
      quotedFrom fuel ((String.ofList name, value) :: pairs) rest
    else
      match trimmed with
      | [] => (ofPairs? pairs).toList
      | ',' :: rest => (ofPairs? pairs).toList ++ quotedFrom fuel [] rest
      | _ => quotedFrom fuel pairs (s.dropWhile fun c => c = '=' || c = ';' || Text.isBlank c)

def ofQuoted (header : String) : List WrittenCookie :=
  quotedFrom (header.length + 1) [] header.toList

end WrittenCookie

end TypeGraph
