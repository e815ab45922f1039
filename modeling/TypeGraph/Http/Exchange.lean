import TypeGraph.Http.Coding
import TypeGraph.Http.Cookie
import TypeGraph.Http.Header
import TypeGraph.Http.Reference
import TypeGraph.Http.Url

/-!
# Requests and replies

A server is known only by its replies: the reply to the first request, to the second, and so on.  A
fetch follows redirects, twenty at most, and reports every request that it made.
-/

namespace TypeGraph

structure Request where
  method : String
  host : String
  path : String
  params : List (String × String)
deriving DecidableEq, Repr

structure Answer where
  status : Nat
  body : List UInt8
  charset : Charset := .utf8
  location : Option String := none
  /-- The headers that ask to keep cookies, in the plain form. -/
  cookies : List String := []
  /-- Such headers in the quoted form. -/
  quotedCookies : List String := []
deriving DecidableEq, Repr

/-- An answer, a failure of the transport with its text, or an answer that cannot be sent because of
a text in its headers. -/
inductive Reply where
  | answer (answer : Answer)
  | failure (text : String)
  | unsendable (text : String)
deriving DecidableEq, Repr

/-- The reply with some headers.  The body is taken out of its codings; if that cannot be done, the
transport fails.  A character set that is not known is UTF-8. -/
def Reply.ofParts (status : Nat) (headers : Headers) (body : List UInt8) : Reply :=
  match headers.unsendable? with
  | some text => .unsendable text
  | none =>
    let codings := ((headers.get? "content-encoding").map Coding.ofNames).getD []
    match Coding.decodeAll codings body with
    | .error problem => .failure problem.message
    | .ok body =>
      .answer
        { status := status
          body := body
          charset := ((headers.get? "content-type").map Headers.charset).getD .utf8
          location := headers.get? "location"
          cookies := headers.values "set-cookie"
          quotedCookies := headers.values "set-cookie2" }

/-- The reply to each request, counted from zero. -/
abbrev Server := Nat → Reply

/-- The server that gives some replies in turn and then keeps giving the last one. -/
def Server.ofReplies (default : Reply) (replies : List Reply) : Server := fun i =>
  (replies[i]?).getD (replies.getLast?.getD default)

/-- The server as it goes on after some requests. -/
def Server.after (server : Server) (count : Nat) : Server := fun i => server (count + i)

/-- What is wrong with an address or an answer, beyond a failure of the transport. -/
inductive ExchangeError where
  /-- What is no address. -/
  | invalidUrl (error : UrlError)
  /-- The host of an address cannot be shown. -/
  | hostName (error : Host.NameError)
  /-- An address does not name its type. -/
  | unknownType (url : Url)
  /-- The host of an address stands in wrong brackets. -/
  | brackets (error : BracketError)
  /-- A cookie calls for the port of an address without an authority. -/
  | noAuthority
  /-- A text in the headers of a request or an answer cannot be sent. -/
  | unsendable (text : String)
  /-- The text of an answer cannot be read. -/
  | charset (error : CharsetError)
deriving DecidableEq, Repr

def ExchangeError.message : ExchangeError → String
  | .invalidUrl e => e.message
  | .hostName e => e.message
  | .unknownType url => url.unknownTypeMessage
  | .brackets e => e.message
  | .noAuthority => "'NoneType' object has no attribute 'find'"
  | .unsendable text => Headers.unsendableMessage text
  | .charset e => e.message

inductive FetchError where
  /-- The transport failed, with a text. -/
  | transport (text : String)
  /-- An address or an answer is wrong. -/
  | exchange (error : ExchangeError)
deriving DecidableEq, Repr

/-- What came of a fetch: the final answer or the failure, and the requests made. -/
structure Fetched where
  requests : List Request
  result : Except FetchError Answer

def Url.request (u : Url) (host : String) : Request where
  method := "GET"
  host := host
  path := u.shownPath
  params := u.params

def isRedirect (status : Nat) : Bool :=
  status = 301 || status = 302 || status = 303 || status = 307 || status = 308

def maxRedirects : Nat := 20

def tooManyRedirects : String := "Exceeded maximum allowed redirects."

def FetchError.ofUrl {α : Type} : Except UrlError α → Except FetchError α
  | .ok a => .ok a
  | .error e => .error (.exchange (.invalidUrl e))

def Url.hostOf (u : Url) : Except FetchError String :=
  match u.shownHost with
  | .ok host => .ok host
  | .error e => .error (.exchange (.hostName e))

/-- Checks that the host and the port of an address can be sent: they have to be ASCII. -/
def Url.checkPlace (u : Url) : Except FetchError Unit :=
  if u.place.toList.all fun c => c.toNat < 128 then .ok ()
  else .error (.exchange (.unsendable u.place))

/-- The address that a redirect from `url` leads to.  A text that is no address counts as a failure
of the transport.  A scheme without a host takes over the host, a relative reference is resolved,
and the fragment stays unless another one is given. -/
def Url.redirect (url : Url) (location : String) : Except FetchError Url := do
  match Url.parse location with
  | .error e => throw (.transport s!"Invalid URL in location header: {e.message}.")
  | .ok target =>
    let host ← if target.scheme = "" then pure none else some <$> target.hostOf
    let target ←
      if host = some "" then FetchError.ofUrl (target.withHost (← url.hostOf)) else pure target
    let target ←
      if target.isRelative then do
        let joined ← (Reference.join url.text target.text).mapError fun e => .exchange (.brackets e)
        FetchError.ofUrl (Url.parse joined)
      else pure target
    let fragment := url.shownFragment
    let target ←
      if fragment ≠ "" ∧ target.shownFragment = "" then
        FetchError.ofUrl (target.withFragment fragment)
      else pure target
    let _ ← target.hostOf
    target.checkPlace
    return target

/-- Checks an address that was sent: it has to name its type, and its brackets have to be right. -/
def Url.checkSent (url : Url) : Except FetchError Unit := do
  if !url.namesType then throw (.exchange (.unknownType url))
  let _ ← (Reference.read "" url.text).mapError fun e => .exchange (.brackets e)

def Url.checkCookies (url : Url) (jar : CookieJar) : Except FetchError Unit := do
  if jar ≠ [] then
    url.checkSent
    if jar.lacksPort (.ofUrl url) then throw (.exchange .noAuthority)

/-- What follows an answer: the end of the fetch, or the address of a redirect, and the cookies kept
by then.  The equations of `fetchFrom` rest on its being irreducible: a branch on what follows is
not to look into the jar. -/
@[irreducible]
def Url.follow (url : Url) (jar : CookieJar) (answer : Answer) :
    Except FetchError (CookieJar × Option Url) := do
  url.checkSent
  let jar ← (jar.receive (.ofUrl url) answer.cookies answer.quotedCookies).mapError fun _ =>
    .exchange .noAuthority
  match if isRedirect answer.status then answer.location else none with
  | none => return (jar, none)
  | some location =>
    let target ← url.redirect location
    target.checkCookies jar
    return (jar, some target)

/-- Asks for an address and follows redirects, at most `left` of them. -/
def fetchFrom (server : Server) (left : Nat) (jar : CookieJar) (url : Url) : Fetched :=
  match url.hostOf with
  | .error e => ⟨[], .error e⟩
  | .ok host =>
    let request := url.request host
    match server 0 with
    | .failure text => ⟨[request], .error (.transport text)⟩
    | .unsendable text => ⟨[request], .error (.exchange (.unsendable text))⟩
    | .answer answer =>
      match url.follow jar answer, left with
      | .error e, _ => ⟨[request], .error e⟩
      | .ok (_, none), _ => ⟨[request], .ok answer⟩
      | .ok (_, some _), 0 => ⟨[request], .error (.transport tooManyRedirects)⟩
      | .ok (jar, some target), left + 1 =>
        let later := fetchFrom (server.after 1) left jar target
        ⟨request :: later.requests, later.result⟩

def fetch (server : Server) (url : Url) : Fetched :=
  match url.checkPlace with
  | .error e => ⟨[], .error e⟩
  | .ok () => fetchFrom server maxRedirects [] url

end TypeGraph
