import TypeGraph.Data.Placement
import TypeGraph.Yaml.Node

/-!
# Data values of YAML documents

Every node of a document becomes one object.  A collection is made empty at first and filled later,
in the order in which the collections were met; so an object may lie inside itself, and a fault of
an outer collection comes before those of the collections inside it.  A mapping keeps the place of a
key at its first occurrence and its value at the last.  A merge key puts the entries of other
mappings in front.
-/

namespace TypeGraph.Yaml

open Text (CodePoints)

/-- A number as a fraction, for comparing numbers of different types. -/
def fraction? : Value → Option (Int × Nat)
  | .bool b => some (if b then 1 else 0, 1)
  | .int n => some (n, 1)
  | .real (.finite negative m e) =>
    let (num, den) := Binary64.ratio m e
    some (if negative then -(num : Int) else num, den)
  | _ => none

/-- Whether two keys are the same.  Numbers are compared by value. -/
def sameKey (a b : Value) : Bool :=
  match fraction? a, fraction? b with
  | some (n₁, d₁), some (n₂, d₂) => n₁ * d₂ = n₂ * d₁
  | none, none =>
    match a, b with
    | .null, .null => true
    | .text s, .text t => s = t
    | .codes s, .codes t => s = t
    | .bytes s, .bytes t => s = t
    | .date s, .date t => s = t
    | .timestamp s, .timestamp t => s.isSame t
    | .real x, .real y => x ≠ .nan && x = y
    | _, _ => false
  | _, _ => false

/-- What a node becomes.  Collections refer to the nodes of their parts. -/
inductive Object where
  /-- A scalar.  What is not a number differs from all else, except that `constant` ones are all
  the same. -/
  | atom (value : Value) (constant : Bool)
  | list (items : List NodeId)
  | pairs (items : List (NodeId × NodeId))
  | mapping (entries : List (NodeId × NodeId))
  | set (items : List NodeId)

def Object.empty? : Tag → Option Object
  | .seq => some (.list [])
  | .omap | .pairs => some (.pairs [])
  | .map => some (.mapping [])
  | .set => some (.set [])
  | _ => none

def Object.isKey : Object → Bool
  | .atom _ _ => true
  | _ => false

/-- Whether two objects of different nodes are the same key. -/
def Object.sameKey : Object → Object → Bool
  | .atom (.real .nan) a, .atom (.real .nan) b => a && b
  | .atom a _, .atom b _ => Yaml.sameKey a b
  | _, _ => false

structure Building where
  nodes : Array Node
  /-- The object of each node, once it is made. -/
  objects : Array (Option Object)
  /-- The collections that are still empty, in the order in which they were made. -/
  waiting : List NodeId := []

abbrev Builder := StateT Building (Except Fault)

namespace Builder

def node (id : NodeId) : Builder Node := do
  match (← get).nodes[id]? with
  | some n => return n
  | none => throw .construction

def object? (id : NodeId) : Builder (Option Object) := do
  return ((← get).objects[id]?).join

def setObject (id : NodeId) (o : Object) : Builder Unit :=
  modify fun s => { s with objects := s.objects.setIfInBounds id (some o) }

def setNode (id : NodeId) (n : Node) : Builder Unit :=
  modify fun s => { s with nodes := s.nodes.setIfInBounds id n }

/-- The text of a scalar.  A mapping stands for the value of its default key, and so on. -/
def scalarText : (fuel : Nat) → NodeId → Builder CodePoints
  | 0, _ => throw .tooDeep
  | fuel + 1, id => do
    match ← node id with
    | .scalar _ text => return text
    | .sequence _ _ => throw .construction
    | .mapping _ entries =>
      match ← entries.findM? fun (key, _) => do return (← node key).tag = .value with
      | some (_, value) => scalarText fuel value
      | none => throw .construction

def atom (id : NodeId) : Builder Object := do
  let n ← node id
  match n.tag with
  | .unknown | .merge | .value => throw .construction
  | tag =>
    let text ← scalarText ((← get).nodes.size + 1) id
    match tag, n with
    | .timestamp, .mapping _ _ => throw .momentNode
    | _, _ => return .atom (← scalarValue tag text) ((floatParts text).2 = nanWord)

/-- Makes the object of a node, unless it is made. -/
def construct (id : NodeId) : Builder Unit := do
  if (← object? id).isSome then return
  match Object.empty? (← node id).tag with
  | some o =>
    setObject id o
    modify fun s => { s with waiting := s.waiting ++ [id] }
  | none => setObject id (← atom id)

/-- Turns the default keys among some entries into texts for good. -/
def settleKeys (entries : List (NodeId × NodeId)) : Builder Unit :=
  entries.forM fun (key, _) => do
    match ← node key with
    | .scalar .value text => setNode key (.scalar .str text)
    | .sequence .value items => setNode key (.sequence .str items)
    | .mapping .value inner => setNode key (.mapping .str inner)
    | _ => pure ()

def entriesOf (id : NodeId) : Builder (Tag × List (NodeId × NodeId)) := do
  match ← node id with
  | .mapping tag entries => return (tag, entries)
  | _ => throw .construction

/-- The entries up to the first merge key, its value, and those behind it. -/
def splitMerge (done : List (NodeId × NodeId)) :
    List (NodeId × NodeId) → Builder (Option (NodeId × List (NodeId × NodeId)))
  | [] => return none
  | (key, value) :: rest => do
    if (← node key).tag = .merge then return some (value, done.reverse ++ rest)
    else splitMerge ((key, value) :: done) rest

/-- Carries out the merge keys of a mapping, with the entries `merged` gathered so far.  A merge key
is removed before its value is looked at, so a mapping merged into itself comes to an end. -/
def mergeInto (merged : List (NodeId × NodeId)) : (fuel : Nat) → NodeId → Builder Unit
  | 0, _ => throw .tooDeep
  | fuel + 1, id => do
    let (tag, entries) ← entriesOf id
    settleKeys entries
    match ← splitMerge [] entries with
    | none => if merged ≠ [] then setNode id (.mapping tag (merged ++ entries))
    | some (value, rest) =>
      setNode id (.mapping tag rest)
      let sourceEntries (source : NodeId) : Builder (List (NodeId × NodeId)) := do
        let _ ← entriesOf source
        mergeInto [] fuel source
        return (← entriesOf source).2
      let more ←
        match ← node value with
        | .sequence _ items => (·.reverse.flatten) <$> items.mapM sourceEntries
        | _ => sourceEntries value
      mergeInto (merged ++ more) fuel id

/-- Puts an entry in: a key that is there keeps its place and gets the new value. -/
def put (done : List (NodeId × NodeId)) (key value : NodeId) :
    Builder (List (NodeId × NodeId)) := do
  let made ← object? key
  let isSame (other : NodeId) : Builder Bool := do
    if other = key then return true
    match made, ← object? other with
    | some a, some b => return a.sameKey b
    | _, _ => return false
  match ← done.findM? fun (k, _) => isSame k with
  | some (k, _) => return done.map fun (k', v) => if k' = k then (k', value) else (k', v)
  | none => return done ++ [(key, value)]

def mappingEntries (id : NodeId) : Builder (List (NodeId × NodeId)) := do
  let count := (← get).nodes.foldl (fun n node =>
    match node with
    | .mapping _ entries => n + entries.length
    | _ => n) 0
  let _ ← entriesOf id
  mergeInto [] (2 * count + 2) id
  (← entriesOf id).2.foldlM (fun done (key, value) => do
    construct key
    if !((← object? key).map Object.isKey).getD false then throw .construction
    construct value
    put done key value) []

/-- The one entry of a mapping in a list of pairs, with its objects made. -/
def pairOf (id : NodeId) : Builder (NodeId × NodeId) := do
  match (← entriesOf id).2 with
  | [(key, value)] =>
    construct key
    construct value
    return (key, value)
  | _ => throw .construction

def itemsOf (id : NodeId) : Builder (List NodeId) := do
  match ← node id with
  | .sequence _ items => return items
  | _ => throw .construction

def fill (id : NodeId) : Builder Unit := do
  match ← object? id with
  | some (.list _) =>
    let items ← itemsOf id
    items.forM construct
    setObject id (.list items)
  | some (.pairs _) => setObject id (.pairs (← (← itemsOf id).mapM pairOf))
  | some (.mapping _) => setObject id (.mapping (← mappingEntries id))
  | some (.set _) => setObject id (.set ((← mappingEntries id).map (·.1)))
  | _ => pure ()

/-- Fills the waiting collections one after the other; each node waits at most once. -/
def fillAll : (fuel : Nat) → Builder Unit
  | 0 => pure ()
  | fuel + 1 => do
    match (← get).waiting with
    | [] => pure ()
    | id :: rest =>
      modify fun s => { s with waiting := rest }
      fill id
      fillAll fuel

end Builder

structure Document where
  objects : Array (Option Object)
  /-- The root, unless the text is empty. -/
  root : Option NodeId

namespace Document

def object? (d : Document) (id : NodeId) : Option Object := (d.objects[id]?).join

/-- The value of an object inside the collections `within`.  The fuel bounds the nesting, which no
collection enters twice. -/
def valueWithin (d : Document) : (fuel : Nat) → (within : List NodeId) → NodeId → Value
  | 0, _, _ => .null
  | fuel + 1, within, id =>
    let again := within.contains id
    let part := d.valueWithin fuel (id :: within)
    match d.object? id with
    | none => .null
    | some (.atom v _) => v
    | some (.list items) => if again then .listAgain else .list (items.map part)
    | some (.pairs items) =>
      if again then .listAgain else .list (items.map fun (a, b) => .pair (part a) (part b))
    | some (.mapping entries) =>
      if again then .mappingAgain else .mapping (entries.map fun (k, v) => (part k, part v))
    | some (.set items) => .set (Placement.arrange (items.map part))

def value (d : Document) (id : NodeId) : Value := d.valueWithin (d.objects.size + 1) [] id

end Document

def load (text : String) : Except Fault Document := do
  let (nodes, root) ← Node.ofText text
  let start : Building := { nodes, objects := Array.replicate nodes.size none }
  match root with
  | none => return ⟨#[], none⟩
  | some id =>
    let (_, s) ← (do
      Builder.construct id
      Builder.fillAll (nodes.size + 1)).run start
    return ⟨s.objects, root⟩

end TypeGraph.Yaml
