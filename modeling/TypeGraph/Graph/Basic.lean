/-!
# Type graphs

A type graph lists the types that a source text mentions, in the order in which they are first seen,
and the directed edges between them.  An entity is an aggregate (a record with fields) or a contract
(a set of required methods).  Both the kinds and the edge types are open vocabularies of labels, of
which two each have a meaning here.
-/

namespace TypeGraph

structure Kind where
  label : String
deriving DecidableEq, Repr

def Kind.aggregate : Kind := ⟨"aggregate"⟩

/-- A type that is a set of required methods. -/
def Kind.contract : Kind := ⟨"contract"⟩

structure EdgeType where
  label : String
deriving DecidableEq, Repr

/-- The source is embedded in the target. -/
def EdgeType.composition : EdgeType := ⟨"composition"⟩

/-- The target provides every method that the source requires. -/
def EdgeType.satisfaction : EdgeType := ⟨"satisfaction"⟩

structure Field where
  name : String
  type : String
deriving DecidableEq, Repr

structure Method where
  name : String
  params : String
  returns : String
deriving DecidableEq, Repr

/-- One type.  It is `declared` once a body for it was seen; until then it stands for a type whose
declaration lies elsewhere. -/
structure Entity where
  name : String
  kind : Kind := .aggregate
  fields : List Field := []
  methods : List Method := []
  embeds : List String := []
  declared : Bool := false
deriving DecidableEq, Repr

structure Relationship where
  source : String
  target : String
  type : EdgeType
deriving DecidableEq, Repr

/-- Entities in first-seen order and the edges between them in order of discovery. -/
structure Graph where
  entities : List Entity := []
  relationships : List Relationship := []
deriving DecidableEq, Repr

def Entity.isContract (e : Entity) : Bool := e.kind = .contract

def Entity.methodNames (e : Entity) : List String := e.methods.map (·.name)

/-- Whether every method name of `contract` is one of `e`. -/
def Entity.satisfies (e contract : Entity) : Bool :=
  contract.methodNames.all (e.methodNames.contains ·)

/-- Embeds a type by name, once. -/
def Entity.addEmbed (e : Entity) (name : String) : Entity :=
  if name ∈ e.embeds then e else { e with embeds := e.embeds ++ [name] }

def Entity.addField (e : Entity) (f : Field) : Entity := { e with fields := e.fields ++ [f] }

def Entity.addMethod (e : Entity) (m : Method) : Entity := { e with methods := e.methods ++ [m] }

end TypeGraph
