import TypeGraph.Graph.Build
import TypeGraph.Log
import TypeGraph.Source.Comment
import TypeGraph.Source.Declaration
import TypeGraph.Source.Member
import TypeGraph.Source.Receiver

/-!
# From source text to type graph

The comments are cut out, then the declarations are entered in order, then the methods with a
receiver, and last the satisfaction edges.  A pointer receiver and a value receiver belong to the
same entity.
-/

namespace TypeGraph

open TypeGraph.Source

/-- Enters one member of `owner`, which has an entity already. -/
def Graph.addMember (owner : String) (g : Graph) : Member → Graph
  | .embedding name => (g.modify owner (·.addEmbed name)).compose name owner
  | .field f => g.modify owner (·.addField f)
  | .method m => g.modify owner (·.addMethod m)

/-- Enters the members of a body, read as a body of the given kind. -/
def Graph.addBody (g : Graph) (owner : String) (kind : Kind) (body : List Char) : Graph :=
  (members kind body).foldl (Graph.addMember owner) g

def Graph.addDeclaration (g : Graph) (d : Declaration) : Graph :=
  (g.declare d.name d.kind).addBody d.name d.kind d.body

def Graph.addReceiver (g : Graph) (m : ReceiverMethod) : Graph :=
  let owner := stripPointer m.receiver
  (g.ensure owner).modify owner (·.addMethod m.method)

def Graph.addDeclarations (g : Graph) (code : List Char) : Graph :=
  (declarations code).foldl Graph.addDeclaration g

def Graph.addReceivers (g : Graph) (code : List Char) : Graph :=
  (receiverMethods code).foldl Graph.addReceiver g

/-- The record of a declaration that contradicts an earlier one. -/
def redeclarationRecord (name : String) (kind standing : Kind) : LogRecord where
  severity := .debug
  channel := .extraction
  message := s!"Ignoring {kind.label} redeclaration of {standing.label} {name}"

/-- The record of declaring `name` in a graph, if it contradicts an earlier declaration. -/
def Graph.declareLog (g : Graph) (name : String) (kind : Kind) : List LogRecord :=
  (g.conflict? name kind).toList.map (redeclarationRecord name kind)

def Graph.declarationsLog : Graph → List Declaration → List LogRecord
  | _, [] => []
  | g, d :: ds => g.declareLog d.name d.kind ++ (g.addDeclaration d).declarationsLog ds

/-- What was found in a source text: the graph, the number of declarations and of methods, and the
declarations that contradicted earlier ones. -/
structure Extraction where
  graph : Graph
  declarations : Nat
  receivers : Nat
  conflicts : List LogRecord

def Extraction.ofSource (source : String) : Extraction :=
  let code := stripComments source.toList
  { graph := ((Graph.addDeclarations {} code).addReceivers code).infer
    declarations := (Source.declarations code).length
    receivers := (receiverMethods code).length
    conflicts := Graph.declarationsLog {} (Source.declarations code) }

def Extraction.summary (x : Extraction) : LogRecord where
  severity := .debug
  channel := .extraction
  message :=
    s!"Parsed {x.declarations} declarations, {x.receivers} receiver methods -> " ++
      s!"{x.graph.entities.length} entities, {x.graph.relationships.length} relationships"

def Extraction.log (x : Extraction) : List LogRecord := x.conflicts ++ [x.summary]

/-- The type graph of a source text. -/
def Graph.ofSource (source : String) : Graph := (Extraction.ofSource source).graph

end TypeGraph
