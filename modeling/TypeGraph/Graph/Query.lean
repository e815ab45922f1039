import TypeGraph.Graph.Basic

/-!
# Questions about a type graph
-/

namespace TypeGraph

def Graph.get? (g : Graph) (name : String) : Option Entity := g.entities.find? (·.name = name)

def Graph.ofKind (g : Graph) (kind : Kind) : List Entity := g.entities.filter (·.kind = kind)

def Graph.declared (g : Graph) : List String := (g.entities.filter (·.declared)).map (·.name)

/-- The edges of one type, or all edges when no type is asked for. -/
def Graph.edges (g : Graph) : Option EdgeType → List Relationship
  | none => g.relationships
  | some type => g.relationships.filter (·.type = type)

/-- Drops every element that equals its predecessor. -/
def dropRepeats : List String → List String
  | [] => []
  | [a] => [a]
  | a :: b :: rest => if a = b then dropRepeats (b :: rest) else a :: dropRepeats (b :: rest)

def Entity.methodNameSet (e : Entity) : List String :=
  dropRepeats (e.methodNames.mergeSort fun a b => decide (a ≤ b))

end TypeGraph
