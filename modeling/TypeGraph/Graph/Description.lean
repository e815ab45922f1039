import TypeGraph.Data.Value
import TypeGraph.Graph.Basic

/-!
# A type graph as data
-/

namespace TypeGraph

def Field.describe (f : Field) : Value :=
  .record [("name", .text f.name), ("type", .text f.type)]

def Method.describe (m : Method) : Value :=
  .record [("name", .text m.name), ("params", .text m.params), ("returns", .text m.returns)]

/-- An entity as data; whether it was declared is left out. -/
def Entity.describe (e : Entity) : Value :=
  .record [
    ("name", .text e.name),
    ("kind", .text e.kind.label),
    ("fields", .list (e.fields.map Field.describe)),
    ("methods", .list (e.methods.map Method.describe)),
    ("embeds", .list (e.embeds.map Value.text))]

def Relationship.describe (r : Relationship) : Value :=
  .record [("source", .text r.source), ("target", .text r.target), ("kind", .text r.type.label)]

def Graph.describe (g : Graph) : Value :=
  .record [
    ("entities", .list (g.entities.map Entity.describe)),
    ("relationships", .list (g.relationships.map Relationship.describe))]

end TypeGraph
