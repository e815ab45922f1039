import TypeGraph.Extraction

/-!
# Histories of a graph

Every way in which a graph may grow, as data, so that whole histories can be spoken about.
-/

namespace TypeGraph

inductive Step where
  | ensure (name : String)
  | declare (name : String) (kind : Kind)
  | compose (embedded owner : String)
  | relate (edge : Relationship)
  | embed (owner embedded : String)
  | body (owner : String) (kind : Kind) (text : String)
  | declarations (code : String)
  | receivers (code : String)
  | infer
deriving Repr

def Graph.apply (g : Graph) : Step → Graph
  | .ensure name => g.ensure name
  | .declare name kind => g.declare name kind
  | .compose embedded owner => g.compose embedded owner
  | .relate edge => g.relate edge
  | .embed owner embedded => g.embed owner embedded
  | .body owner kind text => (g.ensure owner).addBody owner kind text.toList
  | .declarations code => g.addDeclarations code.toList
  | .receivers code => g.addReceivers code.toList
  | .infer => g.infer

def Graph.applyLog (g : Graph) : Step → List LogRecord
  | .declare name kind => g.declareLog name kind
  | .declarations code => g.declarationsLog (Source.declarations code.toList)
  | _ => []

def Step.found : Step → Option Nat
  | .declarations code => some (Source.declarations code.toList).length
  | .receivers code => some (Source.receiverMethods code.toList).length
  | _ => none

def Graph.run (steps : List Step) : Graph := steps.foldl Graph.apply {}

end TypeGraph
