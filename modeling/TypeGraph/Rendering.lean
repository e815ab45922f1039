import TypeGraph.Http.Exchange
import TypeGraph.Log
import TypeGraph.Text.Base64
import TypeGraph.Text.Blank
import TypeGraph.Text.Utf8

/-!
# Rendering a diagram on a server

The diagram travels in the path of the address, as URL-safe base 64 of its UTF-8 bytes.  Any status
other than 200 is a refusal, whose message is the text of the answer.
-/

namespace TypeGraph

inductive ImageFormat where
  | svg
  | png
deriving DecidableEq, Repr

namespace ImageFormat

def label : ImageFormat → String
  | .svg => "svg"
  | .png => "png"

/-- The formats that a renderer takes, with the media types of their images. -/
def mediaTypes : List (ImageFormat × String) := [(.svg, "image/svg+xml"), (.png, "image/png")]

def ofLabel? (s : String) : Option ImageFormat :=
  (mediaTypes.find? (·.1.label = s)).map (·.1)

def unsupportedMessage (s : String) : String := s!"Unsupported output format: {s}"

/-- Every format has its media type in the table. -/
def mediaType (format : ImageFormat) : String := (mediaTypes.lookup format).getD ""

def segment : ImageFormat → String
  | .svg => "svg"
  | .png => "img"

end ImageFormat

/-- A diagram in the form that an address can hold. -/
def encodeDiagram (diagram : String) : String :=
  String.ofList (Base64.urlSafe.encode (Utf8.encode diagram))

def dropTrailingSlashes (s : String) : String :=
  String.ofList (s.toList.reverse.dropWhile (· = '/')).reverse

structure Renderer where
  serverUrl : String
  format : ImageFormat
  theme : Option String
deriving DecidableEq, Repr

def Renderer.defaultServer : String := "https://mermaid.ink"

/-- A renderer; slashes at the end of the server's address do not count. -/
def Renderer.of (serverUrl : String) (format : ImageFormat) (theme : Option String) : Renderer :=
  ⟨dropTrailingSlashes serverUrl, format, theme⟩

/-- A renderer for a format by its name, unless the name is no format. -/
def Renderer.ofLabel (serverUrl label : String) (theme : Option String) :
    Except String Renderer :=
  match ImageFormat.ofLabel? label with
  | some format => .ok (.of serverUrl format theme)
  | none => .error (ImageFormat.unsupportedMessage label)

def Renderer.url (r : Renderer) (diagram : String) : String :=
  r.serverUrl ++ "/" ++ r.format.segment ++ "/" ++ encodeDiagram diagram

/-- The parameters of the request; an empty theme is none. -/
def Renderer.params (r : Renderer) : List (String × String) :=
  (if r.format = .png then [("type", "png")] else []) ++
    (match r.theme with
      | none | some "" => []
      | some theme => [("theme", theme)])

structure Image where
  content : List UInt8
  mediaType : String
deriving DecidableEq, Repr

/-- Why there is no image: the server's message, or an address or answer that is wrong. -/
inductive RenderError where
  | refused (message : String)
  | exchange (error : ExchangeError)
deriving DecidableEq, Repr

/-- What came of rendering, with the requests made and the records logged. -/
structure Rendered where
  requests : List Request
  log : List LogRecord
  result : Except RenderError Image

def Renderer.startRecord (r : Renderer) (diagram : String) : LogRecord where
  severity := .info
  channel := .rendering
  message := s!"Rendering {r.format.label} via {r.serverUrl} ({diagram.length} chars)"

def transportRecord (text : String) : LogRecord where
  severity := .warning
  channel := .rendering
  message := "Renderer request failed: " ++ text

/-- The record of a refusal, which shows the first 300 characters of the message. -/
def refusalRecord (status : Nat) (message : String) : LogRecord where
  severity := .warning
  channel := .rendering
  message := s!"Renderer rejected diagram (status={status}): " ++
    String.ofList (message.toList.take 300)

/-- The message of a refusal: the text of the answer, or its status when the text is blank. -/
def refusalMessage (answer : Answer) : Except ExchangeError String :=
  match answer.charset.decode answer.body with
  | .error e => .error (.charset e)
  | .ok text =>
    let text := Text.strip text
    .ok (if text = "" then s!"renderer returned {answer.status}" else text)

/-- A text as it stands in a query: letters, digits and four marks stand for themselves, a blank is
a plus sign, and any other byte is escaped. -/
def queryForm (s : String) : String :=
  let isPlain (c : Char) : Bool := c.isAlphanum || c = '_' || c = '.' || c = '-' || c = '~'
  String.ofList ((Utf8.encode s).flatMap fun b =>
    let c := Char.ofNat b.toNat
    if isPlain c then [c] else if c = ' ' then ['+'] else Url.escapeByte b)

def Renderer.query (r : Renderer) : Option String :=
  match r.params with
  | [] => none
  | params =>
    some ("&".intercalate (params.map fun (key, value) => queryForm key ++ "=" ++ queryForm value))

def Renderer.target (r : Renderer) (diagram : String) : Except UrlError Url := do
  (← (← Url.parse (r.url diagram)).rooted).withQuery r.query

def Renderer.render (r : Renderer) (diagram : String) (server : Server) : Rendered :=
  let start := r.startRecord diagram
  match r.target diagram with
  | .error e => ⟨[], [start], .error (.exchange (.invalidUrl e))⟩
  | .ok url =>
    let fetched := fetch server url
    match fetched.result with
    | .error (.exchange e) => ⟨fetched.requests, [start], .error (.exchange e)⟩
    | .error (.transport text) =>
      ⟨fetched.requests, [start, transportRecord text],
        .error (.refused ("renderer request failed: " ++ text))⟩
    | .ok answer =>
      if answer.status = 200 then
        ⟨fetched.requests, [start], .ok ⟨answer.body, r.format.mediaType⟩⟩
      else
        match refusalMessage answer with
        | .error e => ⟨fetched.requests, [start], .error (.exchange e)⟩
        | .ok message =>
          ⟨fetched.requests, [start, refusalRecord answer.status message],
            .error (.refused message)⟩

end TypeGraph
