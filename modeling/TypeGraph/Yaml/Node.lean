import TypeGraph.Yaml.Resolution
import TypeGraph.Yaml.Token

/-!
# Nodes of a YAML document

The tokens of a document form scalars, sequences and mappings, each with its tag.  An alias stands
for the very node that its anchor marks, which may be a collection around the alias.  So nodes are
held in a table and refer to each other by their place in it.
-/

namespace TypeGraph.Yaml

open Text (CodePoints)

/-- The place of a node in the table of its document. -/
abbrev NodeId := Nat

inductive Node where
  | scalar (tag : Tag) (text : CodePoints)
  | sequence (tag : Tag) (items : List NodeId)
  | mapping (tag : Tag) (entries : List (NodeId × NodeId))

def Node.tag : Node → Tag
  | .scalar t _ => t
  | .sequence t _ => t
  | .mapping t _ => t

structure Reading where
  scan : Scan
  nodes : Array Node := #[]
  anchors : List (String × NodeId) := []
  handles : List (String × String) := []
  /-- How many collections are open. -/
  depth : Nat := 0

abbrev Reader := StateT Reading (Except Fault)

namespace Reader

def peek : Reader Token := do
  let s ← get
  let scan ← s.scan.ready Scan.lookahead
  set { s with scan }
  return scan.tokens.head?.getD .streamEnd

def skip : Reader Unit := modify fun s => { s with scan := s.scan.take }

def take? (t : Token) : Reader Bool := do
  if (← peek) = t then
    skip
    return true
  else return false

/-- Takes a token that has to stand here. -/
def require (t : Token) : Reader Unit := do
  if !(← take? t) then throw .arrangement

def isAt (ts : List Token) : Reader Bool := do return ts.contains (← peek)

def add (n : Node) : Reader NodeId := do
  let s ← get
  set { s with nodes := s.nodes.push n }
  return s.nodes.size

/-- Gives an anchor its node. -/
def define (anchor : Option String) (n : NodeId) : Reader Unit :=
  match anchor with
  | none => pure ()
  | some name => modify fun s => { s with anchors := (name, n) :: s.anchors }

/-- The greatest number of collections that may be open at once. -/
def maxDepth : Nat := 488

/-- A collection.  Its anchor is given its place before its contents are read. -/
def collection (anchor : Option String) (empty : Node) (contents : Reader Node) :
    Reader NodeId := do
  let id ← add empty
  define anchor id
  if maxDepth ≤ (← get).depth then throw .tooDeep
  modify fun s => { s with depth := s.depth + 1 }
  let full ← contents
  modify fun s => { s with nodes := s.nodes.setIfInBounds id full, depth := s.depth - 1 }
  return id

def properties : Reader (Option String × Option (Option String × String)) := do
  match ← peek with
  | .anchor name =>
    skip
    match ← peek with
    | .tag handle suffix =>
      skip
      return (some name, some (handle, suffix))
    | _ => return (some name, none)
  | .tag handle suffix =>
    skip
    match ← peek with
    | .anchor name =>
      skip
      return (some name, some (handle, suffix))
    | _ => return (none, some (handle, suffix))
  | _ => return (none, none)

def tagName : Option (Option String × String) → Reader (Option String)
  | none => return none
  | some (none, suffix) => return some suffix
  | some (some handle, suffix) => do
    match (← get).handles.lookup handle with
    | some meaning => return some (meaning ++ suffix)
    | none => throw .tag

/-- The null scalar that an absent node stands for. -/
def absent : Reader NodeId := add (.scalar .null [])

inductive Place where
  | block
  | blockOrIndentless
  | flow
deriving DecidableEq, Repr

/-- The meaning of a node's own tag, or the given one for a node without. -/
def tagOr (default : Tag) : Option String → Tag
  | none | some "!" => default
  | some name => .ofName name

mutual

def node (place : Place) : (fuel : Nat) → Reader NodeId
  | 0 => throw .arrangement
  | fuel + 1 => do
    match ← peek with
    | .alias name =>
      skip
      match (← get).anchors.lookup name with
      | some n => return n
      | none => throw .anchor
    | _ =>
      let (anchor, tag) ← properties
      let tag ← tagName tag
      let first ← peek
      if let some name := anchor then
        if ((← get).anchors.lookup name).isSome then throw .anchor
      let scalar (tag : Tag) (text : CodePoints) : Reader NodeId := do
        let id ← add (.scalar tag text)
        define anchor id
        return id
      let sequence (items : Reader (List NodeId)) : Reader NodeId :=
        let tag := tagOr .seq tag
        collection anchor (.sequence tag []) do return .sequence tag (← items)
      let mapping (entries : Reader (List (NodeId × NodeId))) : Reader NodeId :=
        let tag := tagOr .map tag
        collection anchor (.mapping tag []) do return .mapping tag (← entries)
      match first with
      | .scalar text plain =>
        skip
        let implicit := (plain ∧ tag.isNone) ∨ tag = some "!"
        scalar (tagOr (if implicit then Tag.ofPlain text else .str) tag) text
      | .flowSequenceStart =>
        skip
        sequence (flowItems true fuel)
      | .flowMappingStart =>
        skip
        mapping (flowEntries true fuel)
      | t =>
        if t = .blockEntry ∧ place = .blockOrIndentless then sequence (indentlessItems fuel)
        else if t = .blockSequenceStart ∧ place ≠ .flow then
          skip
          sequence (blockItems fuel)
        else if t = .blockMappingStart ∧ place ≠ .flow then
          skip
          mapping (blockEntries fuel)
        else if anchor.isSome ∨ tag.isSome then scalar (tagOr .null tag) []
        else throw .arrangement

def nodeUnless (place : Place) (ends : List Token) : (fuel : Nat) → Reader NodeId
  | 0 => throw .arrangement
  | fuel + 1 => do
    if ← isAt ends then absent else node place fuel

def blockItems : (fuel : Nat) → Reader (List NodeId)
  | 0 => throw .arrangement
  | fuel + 1 => do
    if ← take? .blockEntry then
      let item ← nodeUnless .block [.blockEntry, .blockEnd] fuel
      return item :: (← blockItems fuel)
    else
      require .blockEnd
      return []

/-- The items of a sequence that is not deeper than the key it belongs to. -/
def indentlessItems : (fuel : Nat) → Reader (List NodeId)
  | 0 => throw .arrangement
  | fuel + 1 => do
    if ← take? .blockEntry then
      let item ← nodeUnless .block [.blockEntry, .key, .value, .blockEnd] fuel
      return item :: (← indentlessItems fuel)
    else return []

def blockEntries : (fuel : Nat) → Reader (List (NodeId × NodeId))
  | 0 => throw .arrangement
  | fuel + 1 => do
    if ← take? .key then
      let key ← nodeUnless .blockOrIndentless [.key, .value, .blockEnd] fuel
      let value ←
        if ← take? .value then nodeUnless .blockOrIndentless [.key, .value, .blockEnd] fuel
        else absent
      return (key, value) :: (← blockEntries fuel)
    else
      require .blockEnd
      return []

/-- The items of a flow sequence; an item with a key mark is a mapping of one entry. -/
def flowItems (first : Bool) : (fuel : Nat) → Reader (List NodeId)
  | 0 => throw .arrangement
  | fuel + 1 => do
    if ← take? .flowSequenceEnd then return []
    if !first then require .flowEntry
    if ← take? .flowSequenceEnd then return []
    if ← take? .key then
      let key ← nodeUnless .flow [.value, .flowEntry, .flowSequenceEnd] fuel
      let value ←
        if ← take? .value then nodeUnless .flow [.flowEntry, .flowSequenceEnd] fuel
        else absent
      let item ← add (.mapping .map [(key, value)])
      return item :: (← flowItems false fuel)
    else
      let item ← node .flow fuel
      return item :: (← flowItems false fuel)

/-- The entries of a flow mapping; an item without a key mark has no value. -/
def flowEntries (first : Bool) : (fuel : Nat) → Reader (List (NodeId × NodeId))
  | 0 => throw .arrangement
  | fuel + 1 => do
    if ← take? .flowMappingEnd then return []
    if !first then require .flowEntry
    if ← take? .flowMappingEnd then return []
    if ← take? .key then
      let key ← nodeUnless .flow [.value, .flowEntry, .flowMappingEnd] fuel
      let value ←
        if ← take? .value then nodeUnless .flow [.flowEntry, .flowMappingEnd] fuel
        else absent
      return (key, value) :: (← flowEntries false fuel)
    else
      let key ← node .flow fuel
      let value ← absent
      return (key, value) :: (← flowEntries false fuel)

end

/-- The meanings of the tag handles of a document: the two standing ones and those of its
directives, none of which may come twice. -/
def directives (version : Bool) (handles : List (String × String)) :
    (fuel : Nat) → Reader (List (String × String))
  | 0 => throw .arrangement
  | fuel + 1 => do
    match ← peek with
    | .version major _ =>
      skip
      if version ∨ major ≠ 1 then throw .directive
      directives true handles fuel
    | .tagHandle handle meaning =>
      skip
      if (handles.lookup handle).isSome then throw .directive
      directives version ((handle, meaning) :: handles) fuel
    | .otherDirective =>
      skip
      directives version handles fuel
    | _ => return handles

/-- The handles that need no directive; a directive of the same name goes before them. -/
def standingHandles : List (String × String) := [("!", "!"), ("!!", "tag:yaml.org,2002:")]

def skipEnds : (fuel : Nat) → Reader Unit
  | 0 => pure ()
  | fuel + 1 => do
    if ← take? .documentEnd then skipEnds fuel

def atDirective : Reader Bool := do
  match ← peek with
  | .version _ _ | .tagHandle _ _ | .otherDirective => return true
  | _ => return false

def document (fuel : Nat) : Reader (Option NodeId) := do
  if ← isAt [.streamEnd] then return none
  let isExplicit := (← atDirective) || (← isAt [.documentStart])
  let root ←
    if !isExplicit then
      modify fun s => { s with handles := standingHandles }
      node .block fuel
    else
      let handles ← directives false [] fuel
      modify fun s => { s with handles := handles ++ standingHandles }
      require .documentStart
      if (← atDirective) || (← isAt [.documentStart, .documentEnd, .streamEnd]) then absent
      else node .block fuel
  skipEnds fuel
  if ← take? .streamEnd then return some root
  let _ ← directives false [] fuel
  throw .arrangement

end Reader

/-- The nodes of a text and the root among them, unless the text is empty.  Every character makes at
most four tokens, which bounds the length of the reading. -/
def Node.ofText (text : String) : Except Fault (Array Node × Option NodeId) := do
  let scan ← Scan.ofText text
  let (root, s) ← (Reader.document (8 * text.length + 16)).run { scan }
  return (s.nodes, root)

end TypeGraph.Yaml
