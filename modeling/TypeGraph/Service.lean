import TypeGraph.Diagram
import TypeGraph.Extraction
import TypeGraph.Failure
import TypeGraph.Graph.Query
import TypeGraph.Settings

/-!
# The diagram service

A run takes a source text through extraction, drawing and rendering.  A failure that the user is to
be told about becomes part of the result of a run; any other error ends it.
-/

namespace TypeGraph

/-- What finds the types in a source text, and what it logs. -/
abbrev Parser := String → Graph × List LogRecord

def goParser : Parser := fun source =>
  let x := Extraction.ofSource source
  (x.graph, x.log)

structure Parsers where
  table : List (String × Parser) := []

/-- Puts a parser in, in place of an earlier one for its language. -/
def Parsers.register (p : Parsers) (language : String) (parser : Parser) : Parsers :=
  ⟨(language, parser) :: p.table.filter (·.1 ≠ language)⟩

def Parsers.get? (p : Parsers) (language : String) : Option Parser := p.table.lookup language

def Parsers.standard : Parsers := Parsers.register {} "go" goParser

inductive ServiceError where
  /-- A failure that the user is told about. -/
  | failure (f : Failure)
  /-- No parser is at hand for the language. -/
  | unknownLanguage (language : String)
  /-- An edge that a diagram cannot show. -/
  | unknownEdge (type : EdgeType)
  /-- An address or an answer that is wrong. -/
  | exchange (error : ExchangeError)
deriving DecidableEq, Repr

def unknownLanguageMessage (language : String) : String := s!"No parser registered for {language}"

def ServiceError.message : ServiceError → String
  | .failure f => f.message
  | .unknownLanguage language => unknownLanguageMessage language
  | .unknownEdge type => type.label
  | .exchange e => e.message

structure Service where
  renderer : Renderer := ({} : Settings).renderer
  parsers : Parsers := .standard
  language : String := "go"

def Service.ofSettings (s : Settings) : Service := { renderer := s.renderer }

namespace Service

/-- The graph of a source text and what its extraction logs.  A blank text is refused before the
language is looked at, a text without declarations after its extraction. -/
def extract (s : Service) (source : String) : Except ServiceError Graph × List LogRecord :=
  if Text.isBlankText source then (.error (.failure ⟨.emptyInput, none⟩), [])
  else
    match s.parsers.get? s.language with
    | none => (.error (.unknownLanguage s.language), [])
    | some parser =>
      let (graph, log) := parser source
      if graph.declared = [] then (.error (.failure ⟨.noDeclarations, none⟩), log)
      else (.ok graph, log)

def parse (s : Service) (source : String) : Except ServiceError Graph := (s.extract source).1

def draw (g : Graph) : Except ServiceError String :=
  match Diagram.render g with
  | .ok text => .ok text
  | .error type => .error (.unknownEdge type)

def diagram (s : Service) (source : String) : Except ServiceError String := do
  draw (← s.parse source)

end Service

/-- What a run produced.  It failed when there is an error message. -/
structure DiagramResult where
  diagram : Option String := none
  artifact : Option (List UInt8) := none
  mediaType : Option String := none
  error : Option String := none
deriving DecidableEq, Repr

def DiagramResult.ok (r : DiagramResult) : Bool := r.error.isNone

structure Run where
  requests : List Request
  log : List LogRecord
  outcome : Except ServiceError DiagramResult

def failureRecord (f : Failure) : LogRecord where
  severity := .info
  channel := .service
  message := "Diagram run failed: " ++ f.message

/-- Ends a run: a failure joins the result and the log, another error is passed on. -/
def Run.close (requests : List Request) (log : List LogRecord) (diagram : Option String)
    (outcome : Except ServiceError (Option Image)) : Run :=
  match outcome with
  | .ok image =>
    { requests := requests
      log := log
      outcome := .ok
        { diagram := diagram
          artifact := image.map (·.content)
          mediaType := image.map (·.mediaType) } }
  | .error (.failure f) =>
    { requests := requests
      log := log ++ [failureRecord f]
      outcome := .ok { diagram := diagram, error := some f.message } }
  | .error e => { requests := requests, log := log, outcome := .error e }

def ServiceError.ofRendering : RenderError → ServiceError
  | .refused message => .failure ⟨.rendering, some message⟩
  | .exchange e => .exchange e

/-- Runs a source text: the diagram, and on request the image of it. -/
def Service.generate (s : Service) (source : String) (render : Bool) (server : Server) : Run :=
  match s.diagram source with
  | .error e => Run.close [] (s.extract source).2 none (.error e)
  | .ok diagram =>
    let log := (s.extract source).2
    if !render then Run.close [] log (some diagram) (.ok none)
    else
      let rendered := s.renderer.render diagram server
      Run.close rendered.requests (log ++ rendered.log) (some diagram)
        (match rendered.result with
          | .ok image => .ok (some image)
          | .error e => .error (.ofRendering e))

end TypeGraph
