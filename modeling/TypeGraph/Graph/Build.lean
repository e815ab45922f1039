import TypeGraph.Graph.Query

/-!
# Growing a type graph

A graph grows by small steps, none of which takes anything away.  A name has one entity, made at
its first mention as an undeclared aggregate; the first declaration fixes its kind; an edge is kept
once, at its first place.
-/

namespace TypeGraph

def Graph.ensure (g : Graph) (name : String) : Graph :=
  if g.entities.any (·.name = name) then g
  else { g with entities := g.entities ++ [{ name := name }] }

def Graph.modify (g : Graph) (name : String) (f : Entity → Entity) : Graph :=
  { g with entities := g.entities.map fun e => if e.name = name then f e else e }

/-- Gives an entity its kind, unless a declaration has done so before. -/
def Entity.declare (e : Entity) (kind : Kind) : Entity :=
  if e.declared then e else { e with kind := kind, declared := true }

def Graph.declare (g : Graph) (name : String) (kind : Kind) : Graph :=
  (g.ensure name).modify name (·.declare kind)

/-- The kind that an earlier declaration has fixed, when it differs from the one now declared. -/
def Graph.conflict? (g : Graph) (name : String) (kind : Kind) : Option Kind :=
  match g.get? name with
  | some e => if e.declared ∧ e.kind ≠ kind then some e.kind else none
  | none => none

/-- Adds an edge, once. -/
def Graph.relate (g : Graph) (r : Relationship) : Graph :=
  if r ∈ g.relationships then g else { g with relationships := g.relationships ++ [r] }

/-- Records that `owner` embeds a type, which thereby has an entity. -/
def Graph.compose (g : Graph) (embedded owner : String) : Graph :=
  (g.ensure embedded).relate ⟨embedded, owner, .composition⟩

/-- Embeds a type in an entity by name alone. -/
def Graph.embed (g : Graph) (owner embedded : String) : Graph :=
  (g.ensure owner).modify owner (·.addEmbed embedded)

/-- The satisfaction edges that the members of the entities call for: each contract with at least
one method points at every aggregate that has all of its method names. -/
def Graph.satisfactions (g : Graph) : List Relationship :=
  (g.ofKind .contract).flatMap fun contract =>
    if contract.methods = [] then []
    else
      ((g.ofKind .aggregate).filter (·.satisfies contract)).map fun aggregate =>
        ⟨contract.name, aggregate.name, .satisfaction⟩

def Graph.infer (g : Graph) : Graph := g.satisfactions.foldl Graph.relate g

end TypeGraph
