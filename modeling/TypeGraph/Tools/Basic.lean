import TypeGraph.Data.Json.Printer
import TypeGraph.Graph.Description
import TypeGraph.Service

/-!
# Tools

The three tools that a tool server offers.  Each takes source code and answers with JSON text; a
failure that the user is to be told about is part of the answer.
-/

namespace TypeGraph

inductive Tool where
  | draw
  | describe
  | render
deriving DecidableEq, Repr

namespace Tool

def all : List Tool := [.draw, .describe, .render]

def name : Tool → String
  | .draw => "go_to_class_diagram"
  | .describe => "describe_types"
  | .render => "render_class_diagram"

def ofName? (s : String) : Option Tool := all.find? (·.name = s)

def description : Tool → String
  | .draw =>
    "Convert Go source into a Mermaid classDiagram (structs, interfaces, embedding and inferred " ++
      "interface satisfaction)."
  | .describe =>
    "List the structs and interfaces found in Go source with their fields, methods, embeds and " ++
      "relationships."
  | .render => "Render the class diagram for Go source to an SVG or PNG image (base64 encoded)."

/-- An argument of a tool: a text, perhaps one of a few. -/
structure Parameter where
  name : String
  choices : List String := []
  description : String
deriving DecidableEq, Repr

def code : Parameter where
  name := "code"
  description := "Go source containing struct/interface declarations and receiver methods."

def format : Parameter where
  name := "format"
  choices := ["svg", "png"]
  description := "Image format; defaults to the configured format."

def parameters : Tool → List Parameter
  | .draw | .describe => [code]
  | .render => [code, format]

def Parameter.schema (p : Parameter) : Value :=
  .record ([("type", .text "string")] ++
    (if p.choices = [] then [] else [("enum", .list (p.choices.map .text))]) ++
    [("description", .text p.description)])

def schema (t : Tool) : Value :=
  .record [
    ("type", .text "object"),
    ("properties", .record (t.parameters.map fun p => (p.name, p.schema))),
    ("required", .list [.text code.name])]

def listing (t : Tool) : Value :=
  .record [
    ("name", .text t.name),
    ("description", .text t.description),
    ("inputSchema", t.schema)]

end Tool

inductive ToolError where
  | unknownTool (name : String)
  | uninitialized
  | codeMissing
  | service (error : ServiceError)
deriving DecidableEq, Repr

def ToolError.message : ToolError → String
  | .unknownTool name => s!"Unknown tool: {name}"
  | .uninitialized => "MCP server has not been initialized with settings."
  | .codeMissing => "code is required"
  | .service e => e.message

/-- A tool call: the requests it made, and its answer. -/
structure ToolCall where
  requests : List Request := []
  result : Except ToolError Value

namespace Tool

def answer {α : Type} (result : Except ServiceError α) (shown : α → Value) :
    Except ToolError Value :=
  match result with
  | .ok a => .ok (shown a)
  | .error (.failure f) => .ok (.record [("error", .text f.message)])
  | .error e => .error (.service e)

def textOrNull (s : Option String) : Value := (s.map Value.text).getD .null

def runAnswer (r : DiagramResult) : Value :=
  match r.error with
  | some message => .record [("error", .text message), ("diagram", textOrNull r.diagram)]
  | none =>
    .record [
      ("diagram", textOrNull r.diagram),
      ("media_type", textOrNull r.mediaType),
      ("artifact_base64",
        .text (String.ofList (Base64.standard.encode (r.artifact.getD []))))]

def formatAnswer (format : Value) (errors : List FieldError) : Value :=
  let problem := (errors.head?.map (·.problem.message)).getD ""
  .record [("error", .text ("Invalid format " ++ format.literal ++ ": " ++ problem))]

/-- The settings with the format that a call asks for; a value that counts as false asks for
none. -/
def formatSettings (s : Settings) (format : Value) : Except (List FieldError) Settings :=
  if format.isTruthy then s.withFormat format else .ok s

def run (t : Tool) (s : Settings) (source : String) (format : Value) (server : Server) : ToolCall :=
  let service := Service.ofSettings s
  match t with
  | .draw => { result := answer (service.diagram source) fun d => .record [("diagram", .text d)] }
  | .describe => { result := answer (service.parse source) Graph.describe }
  | .render =>
    match formatSettings s format with
    | .error errors => { result := .ok (formatAnswer format errors) }
    | .ok s =>
      let run := (Service.ofSettings s).generate source true server
      { requests := run.requests
        result := match run.outcome with
          | .ok r => .ok (runAnswer r)
          | .error e => .error (.service e) }

/-- Calls a tool by name.  An unknown name is refused first, then a server without settings, then a
call without code. -/
def call (settings : Option Settings) (name : String) (arguments : List (String × Value))
    (server : Server) : ToolCall :=
  match ofName? name, settings, arguments.lookup code.name with
  | none, _, _ => { result := .error (.unknownTool name) }
  | some _, none, _ => { result := .error .uninitialized }
  | some t, some s, some (.text source) =>
    t.run s source ((arguments.lookup format.name).getD .null) server
  | some _, some _, _ => { result := .error .codeMissing }

end Tool

end TypeGraph
