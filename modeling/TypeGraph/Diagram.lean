import TypeGraph.Graph.Basic
import TypeGraph.Text.Uppercase

/-!
# Class diagrams

The text of a class diagram: a header, one block per entity in order, and one line per edge.  A
member is public, shown as `+`, when its name starts with an upper-case character, and private,
shown as `-`, otherwise.  All texts are written as they are, without quoting.
-/

namespace TypeGraph.Diagram

def isExported (name : String) : Bool :=
  match name.toList with
  | [] => false
  | c :: _ => Text.isUppercase c

def visibility (name : String) : String := if isExported name then "+" else "-"

def header : String := "classDiagram"

def indent : String := "    "

def fieldLine (f : Field) : String := visibility f.name ++ f.name ++ ": " ++ f.type

def methodLine (m : Method) : String :=
  let line := visibility m.name ++ m.name ++ "(" ++ m.params ++ ")"
  if m.returns = "" then line else line ++ " " ++ m.returns

def entityLines (e : Entity) : List String :=
  ["class " ++ e.name ++ " \x7b"]
    ++ (if e.isContract then [indent ++ "<<Interface>>"] else [])
    ++ e.fields.map (indent ++ fieldLine ·)
    ++ e.methods.map (indent ++ methodLine ·)
    ++ ["\x7d"]

/-- The arrow of an edge type, for the two that a diagram can show. -/
def arrow? (type : EdgeType) : Option String :=
  if type = .composition then some "<|--"
  else if type = .satisfaction then some "<|.."
  else none

/-- The line of an edge; an edge type without an arrow is the failure. -/
def edgeLine (r : Relationship) : Except EdgeType String :=
  match arrow? r.type with
  | some arrow => .ok (r.source ++ " " ++ arrow ++ " " ++ r.target)
  | none => .error r.type

def lines (g : Graph) : Except EdgeType (List String) := do
  let edges ← g.relationships.mapM edgeLine
  return header :: g.entities.flatMap entityLines ++ edges

def render (g : Graph) : Except EdgeType String := do
  let lines ← lines g
  return "\n".intercalate lines

end TypeGraph.Diagram
