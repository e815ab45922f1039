import TypeGraph.Http.Cookie.Origin
import TypeGraph.Http.Cookie.Written
import TypeGraph.Number.Binary64

/-!
# Cookies

An answer may ask its client to keep cookies.  A client keeps those that their origin may set, until
they lapse.  A cookie is known by its domain, its path and its name, and one that comes later takes
the place of an earlier one.
-/

namespace TypeGraph

structure CookieKey where
  domain : String
  path : String
  name : String
deriving DecidableEq, Repr

structure Cookie where
  key : CookieKey
  version : Option Int
  /-- Whether the answer gave the domain. -/
  hasDomain : Bool
  /-- The ports that the answer gave, with commas between them. -/
  ports : Option String
  /-- Whether it is bound to a port. -/
  isPortBound : Bool
  isSecure : Bool
deriving DecidableEq, Repr

abbrev CookieJar := List Cookie

/-! ## Terms -/

/-- What the attributes of a cookie say; of equal ones the first counts. -/
structure CookieTerms where
  version : Option String := none
  /-- The moment at which the cookie lapses; one that is not known has no value. -/
  expires : Option (Option Int) := none
  domain : Option String := none
  path : Option String := none
  /-- The ports; the attribute need not have a value. -/
  port : Option (Option String) := none
  secure : Option Bool := none
deriving DecidableEq, Repr

/-- Adds attributes to what is known of a cookie; none if one of them spoils the cookie.  An age
goes before a date. -/
def CookieTerms.add (terms : CookieTerms) : List CookieAttribute →
    Except CookieFault (Option CookieTerms)
  | [] => .ok (some terms)
  | .version number :: rest =>
    match terms.version, number with
    | some _, _ => terms.add rest
    | none, some number => CookieTerms.add { terms with version := some number } rest
    | none, none => .ok none
  | .expires moment :: rest =>
    match terms.expires with
    | some _ => terms.add rest
    | none => CookieTerms.add { terms with expires := moment.map some } rest
  | .expiresUnread :: rest =>
    match terms.expires with
    | some _ => terms.add rest
    | none => CookieTerms.add { terms with expires := some none } rest
  | .maxAge none :: _ => .error .ageless
  | .maxAge (some seconds) :: rest =>
    match Integer.read 10 (Text.CodePoints.ofString seconds) with
    | .ok n => CookieTerms.add { terms with expires := some (some (Expiry.present + n)) } rest
    | .error _ => .ok none
  | .domain name :: rest =>
    match terms.domain, name with
    | some _, _ => terms.add rest
    | none, some name => CookieTerms.add { terms with domain := some name } rest
    | none, none => .ok none
  | .path path :: rest =>
    match terms.path, path with
    | some _, _ => terms.add rest
    | none, some path => CookieTerms.add { terms with path := some path } rest
    | none, none => .ok none
  | .port ports :: rest =>
    match terms.port with
    | some _ => terms.add rest
    | none => CookieTerms.add { terms with port := some ports } rest
  | .secure value :: rest =>
    match terms.secure with
    | some _ => terms.add rest
    | none => CookieTerms.add { terms with secure := some (value ≠ some "") } rest
  | .other :: rest => terms.add rest

/-! ## Keeping cookies -/

def dotted (name : String) : String := if name.startsWith "." then name else "." ++ name

inductive CookieOffer where
  | keep (cookie : Cookie)
  | drop (key : CookieKey)
  | nothing
deriving DecidableEq, Repr

/-- The version of a cookie, if it has one; an error if that is no number. -/
def CookieTerms.versionNumber (terms : CookieTerms) : Except Integer.ReadError (Option Int) :=
  match terms.version with
  | none => .ok none
  | some text => (Integer.read 10 (Text.CodePoints.ofString text)).map some

/-- What the terms of a cookie ask for.  One that lapsed is to be dropped. -/
def CookieTerms.offer (terms : CookieTerms) (name : String) (origin : CookieOrigin) :
    Except CookieFault CookieOffer :=
  match terms.versionNumber with
  | .error _ => .ok .nothing
  | .ok version =>
    let path := match terms.path with
      | none | some "" => origin.defaultPath version
      | some path => CookieOrigin.plainPath path
    let key := ⟨(terms.domain.map dotted).getD origin.host, path, name⟩
    let ports := terms.port.join.map fun ports =>
      String.ofList (ports.toList.filter fun c => !Text.isBlank c)
    let cookie : Cookie :=
      { key := key
        version := version
        hasDomain := terms.domain.isSome
        ports := ports
        isPortBound := ports.isSome || (terms.port.isSome && origin.port.isSome)
        isSecure := terms.secure.getD false }
    if terms.port = some none ∧ !origin.hasAuthority then .error .noAuthority
    else
      match terms.expires with
      | none => .ok (.keep cookie)
      | some none => .error .unread
      | some (some moment) =>
        if moment ≤ Expiry.present then .ok (.drop key)
        else if Binary64.ofInt moment = .infinite false then .error .distant
        else .ok (.keep cookie)

/-- Whether an origin may set a cookie for its domain.  A domain without a dot inside is for local
hosts, and the host has to end in the domain. -/
def Cookie.fitsDomain (cookie : Cookie) (origin : CookieOrigin) : Bool :=
  let host := origin.host
  let domain := cookie.key.domain
  let bare := String.ofList (domain.toList.drop 1)
  let ends :=
    host.endsWith domain || host.endsWith (bare ++ ".local") || host.startsWith "." ||
      ("." ++ host).endsWith domain
  !cookie.hasDomain ||
    ((bare.toList.contains '.' || host.endsWith ".local") && (cookie.version ≠ some 0 || ends))

/-- Whether a port is among those of a list; what is no number ends the list. -/
def listsPort (port : String) : List String → Bool
  | [] => false
  | p :: rest =>
    match Integer.read 10 (Text.CodePoints.ofString p) with
    | .ok _ => p = port || listsPort port rest
    | .error _ => false

/-- Whether a cookie is kept.  Its ports have to hold that of the origin. -/
def Cookie.isWelcome (cookie : Cookie) (origin : CookieOrigin) : Except CookieFault Bool :=
  if !cookie.version.any (· ≤ 0) ∨ !cookie.fitsDomain origin then .ok false
  else
    match cookie.ports with
    | none => .ok true
    | some ports =>
      if !origin.hasAuthority then .error .noAuthority
      else .ok (listsPort (origin.port.getD "80") ((ports.toList.splitOn ',').map String.ofList))

namespace CookieJar

def remove (jar : CookieJar) (key : CookieKey) : CookieJar := jar.filter (·.key ≠ key)

def keep (jar : CookieJar) (cookie : Cookie) : CookieJar := jar.remove cookie.key ++ [cookie]

/-- Drops the cookies that are to be dropped and gathers those to keep, of which none is left after
a fault. -/
def settle (origin : CookieOrigin) (jar : CookieJar) (kept : List Cookie) :
    List (String × CookieTerms) → CookieJar × List Cookie
  | [] => (jar, kept)
  | (name, terms) :: rest =>
    match terms.offer name origin with
    | .error _ => (jar, [])
    | .ok .nothing => settle origin jar kept rest
    | .ok (.drop key) => settle origin (jar.remove key) kept rest
    | .ok (.keep cookie) => settle origin jar (kept ++ [cookie]) rest

def termsOf (written : List WrittenCookie) : Except CookieFault (List (String × CookieTerms)) := do
  let terms ← written.mapM fun cookie => do
    return (cookie.name, ← CookieTerms.add {} cookie.attributes)
  return terms.filterMap fun (name, terms) => terms.map (name, ·)

/-- Settles written cookies; none is kept after a fault. -/
def settleWritten (origin : CookieOrigin) (jar : CookieJar)
    (written : Except CookieFault (List WrittenCookie)) : CookieJar × List Cookie :=
  match written.bind termsOf with
  | .error _ => (jar, [])
  | .ok terms => settle origin jar [] terms

/-- The jar after an answer with some headers in the plain form and some in the quoted form.  The
latter count only beside the former, and a first version in the plain form counts as none. -/
def receive (jar : CookieJar) (origin : CookieOrigin) (plain quoted : List String) :
    Except CookieFault CookieJar :=
  if plain = [] then .ok jar
  else
    let (jar, first) := settleWritten origin jar (.ok (quoted.flatMap WrittenCookie.ofQuoted))
    let (jar, second) := settleWritten origin jar
      ((plain.mapM WrittenCookie.ofPlain).map fun cookies => cookies.filterMap id)
    let second := second.map fun cookie =>
      if cookie.version = some 1 then { cookie with version := some 0 } else cookie
    (first ++ second).foldlM (fun jar cookie => do
      return if ← cookie.isWelcome origin then jar.keep cookie else jar) jar

end CookieJar

/-- Whether a cookie may go to an origin, as far as its domain and its path tell. -/
def Cookie.reaches (cookie : Cookie) (target : CookieOrigin) : Bool :=
  let domain := dotted cookie.key.domain
  let path := cookie.key.path
  let isBelow := path.endsWith "/" || (target.path.toList.drop path.length).head? = some '/'
  ((dotted target.name).endsWith domain || (dotted target.host).endsWith domain) &&
    (target.path = path || (target.path.startsWith path && isBelow))

/-- Whether sending the cookies of a jar calls for the port of an origin that has none. -/
def CookieJar.lacksPort (jar : CookieJar) (target : CookieOrigin) : Bool :=
  !target.hasAuthority &&
    jar.any fun cookie => cookie.isPortBound && !cookie.isSecure && cookie.reaches target

end TypeGraph
