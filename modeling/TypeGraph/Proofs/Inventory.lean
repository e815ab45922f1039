import Mathlib.Data.List.ProdSigma
import TypeGraph.Extraction

/-!
# The inventory of a source text

What a source text says about types, before any table is kept: the declarations with the contents of
their bodies, and the methods with a receiver.  From an inventory the graph is stated outright, name
by name and edge by edge, without a notion of order in which a table grows.  The table-driven run is
compared with it in `EntityModel` and `EdgeModel`.
-/

namespace TypeGraph

open TypeGraph.Source TypeGraph.Text

structure Contents where
  name : String
  kind : Kind
  embeds : List String := []
  fields : List Field := []
  methods : List Method := []
deriving DecidableEq, Repr

structure Inventory where
  /-- The declarations, in order. -/
  declared : List Contents
  /-- The methods under the types that receive them, in order. -/
  received : List (String × Method)
deriving DecidableEq, Repr

/-! ## Reading an inventory off a text -/

/-- The lines of a body that embed nothing. -/
def otherLines (body : List Char) : List (List Char) :=
  (bodyLines body).filter (embedding? · = none)

/-- The contents of a declaration.  Lines that are no embeddings are fields after `struct` and
methods after `interface`, as far as they have that form. -/
def Source.Declaration.contents (d : Declaration) : Contents where
  name := d.name
  kind := d.kind
  embeds := (bodyLines d.body).filterMap embedding?
  fields := if d.keyword = .struct then (otherLines d.body).filterMap field? else []
  methods := if d.keyword = .interface then (otherLines d.body).filterMap method? else []

/-- A method under the name of the type that receives it. -/
def Source.ReceiverMethod.received (m : ReceiverMethod) : String × Method :=
  (stripPointer m.receiver, m.method)

def Inventory.ofSource (source : String) : Inventory where
  declared := (declarations (stripComments source.toList)).map (·.contents)
  received := (receiverMethods (stripComments source.toList)).map (·.received)

/-! ## The graph of an inventory -/

def Inventory.declarationsOf (v : Inventory) (name : String) : List Contents :=
  v.declared.filter (·.name = name)

/-- The types in the order of their first mention: each declared name is followed by the names that
its body embeds, and the types that receive methods come last. -/
def Inventory.names (v : Inventory) : List String :=
  ((v.declared.flatMap fun c => c.name :: c.embeds) ++ v.received.map (·.1)).eraseDups

/-- The record of a name.  The first declaration gives the kind, all of them give members. -/
def Inventory.entity (v : Inventory) (name : String) : Entity where
  name := name
  kind := ((v.declarationsOf name).head?.map (·.kind)).getD .aggregate
  fields := (v.declarationsOf name).flatMap (·.fields)
  methods := (v.declarationsOf name).flatMap (·.methods) ++
    (v.received.filter (·.1 = name)).map (·.2)
  embeds := ((v.declarationsOf name).flatMap (·.embeds)).eraseDups
  declared := v.declared.any (·.name = name)

def Inventory.entities (v : Inventory) : List Entity := v.names.map v.entity

/-- The composition edges, each at its first place. -/
def Inventory.compositions (v : Inventory) : List Relationship :=
  (v.declared.flatMap fun c => c.embeds.map (⟨·, c.name, .composition⟩)).eraseDups

/-- Whether `provider` has a method of every name that `contract` asks for, if it asks for any. -/
def Provides (provider contract : Entity) : Prop :=
  contract.methods ≠ [] ∧ ∀ m ∈ contract.methods, ∃ p ∈ provider.methods, p.name = m.name

instance (provider contract : Entity) : Decidable (Provides provider contract) :=
  inferInstanceAs (Decidable (_ ∧ _))

/-- The satisfaction edges among records: every contract, in order, with the aggregates that provide
it, in order. -/
def satisfactionsOf (entities : List Entity) : List Relationship :=
  (((entities.filter (·.kind = .contract)) ×ˢ (entities.filter (·.kind = .aggregate))).filter
    fun p => Provides p.2 p.1).map fun p => ⟨p.1.name, p.2.name, .satisfaction⟩

def Inventory.graph (v : Inventory) : Graph where
  entities := v.entities
  relationships := v.compositions ++ satisfactionsOf v.entities

end TypeGraph
