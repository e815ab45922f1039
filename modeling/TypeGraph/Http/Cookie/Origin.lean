import TypeGraph.Http.Reference
import TypeGraph.Http.Url

/-!
# Origins of cookies

Whether a cookie may be set or sent depends on the host, the path and the port of an address.
-/

namespace TypeGraph

structure CookieOrigin where
  /-- The host as it is written. -/
  name : String
  path : String
  /-- Whether there is an authority, which alone can have a port. -/
  hasAuthority : Bool
  /-- The port, unless it is no number. -/
  port : Option String
deriving DecidableEq, Repr

namespace CookieOrigin

def isPathChar (c : Char) : Bool := c.isAlphanum || "_.-~%/;:@&=+$,!*'()".toList.contains c

def upperEscapes : List Char → List Char
  | [] => []
  | '%' :: a :: b :: rest =>
    if (Url.hexDigit? a).isSome && (Url.hexDigit? b).isSome then
      '%' :: a.toUpper :: b.toUpper :: upperEscapes rest
    else '%' :: upperEscapes (a :: b :: rest)
  | c :: rest => c :: upperEscapes rest
termination_by s => s.length

def plainPath (path : String) : String :=
  String.ofList (upperEscapes (Url.escape isPathChar path.toList).toList)

def dropPort (authority : List Char) : List Char :=
  let digits := authority.reverse.takeWhile Char.isDigit
  match authority.reverse.drop digits.length with
  | ':' :: rest => if digits = [] then authority else rest.reverse
  | _ => authority

/-- The authority of an address: what two slashes behind its type lead in. -/
def authorityOf? (text : String) : Option (List Char) :=
  match (text.toList.dropWhile (· ≠ ':')).drop 1 with
  | '/' :: '/' :: rest => some (rest.takeWhile fun c => c ≠ '/' && c ≠ '#' && c ≠ '?')
  | _ => none

/-- The port of an authority: what stands behind its first colon, or 80 if there is none. -/
def portOf? (authority : List Char) : Option String :=
  match (Url.percentDecode authority).toList.dropWhile (· ≠ ':') with
  | [] => some "80"
  | _ :: port =>
    match Integer.read 10 (Text.CodePoints.ofChars port) with
    | .ok _ => some (String.ofList port)
    | .error _ => none

def ofUrl (url : Url) : CookieOrigin :=
  let reference := Reference.ofText "" url.text
  let path := plainPath reference.path
  { name := String.ofList ((dropPort reference.authority.toList).map Char.toLower)
    path := if path.startsWith "/" then path else "/" ++ path
    hasAuthority := (authorityOf? url.text).isSome
    port := (authorityOf? url.text).bind portOf? }

/-- The host in full; one without a dot is local. -/
def host (origin : CookieOrigin) : String :=
  if origin.name.toList.contains '.' then origin.name else origin.name ++ ".local"

/-- The path of a cookie that gives none: up to the last slash, which a cookie of version zero does
not keep. -/
def defaultPath (origin : CookieOrigin) (version : Option Int) : String :=
  let folder := origin.path.toList.reverse.dropWhile (· ≠ '/')
  let folder := if version = some 0 then folder.drop 1 else folder
  if folder = [] then "/" else String.ofList folder.reverse

end CookieOrigin

end TypeGraph
