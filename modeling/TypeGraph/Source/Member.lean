import TypeGraph.Graph.Basic
import TypeGraph.Source.Lexeme
import TypeGraph.Source.Receiver
import TypeGraph.Text.Line

/-!
# Members of a declaration

Each line of a body is one member or nothing.  A lone name, with an optional pointer star, is an
embedding in every body.  Another line is a field in the body of an aggregate and a method in any
other body, if it has that form.  Lines come without blanks at their ends.
-/

namespace TypeGraph.Source

open TypeGraph.Text

inductive Member where
  | embedding (name : String)
  | field (field : Field)
  | method (method : Method)
deriving DecidableEq, Repr

/-- The delimiter of a field's tag. -/
def tagMark : Char := '\x60'

/-- An embedding: a name alone, with an optional pointer star. -/
def embedding? (line : List Char) : Option String :=
  let name := dropStar line
  if name ≠ [] ∧ name.all isWord then some (String.ofList name) else none

/-- A tag reaches from one mark to another, the last character of the line. -/
def isTag (s : List Char) : Bool :=
  match s with
  | [] => false
  | first :: rest => first = tagMark && rest.getLast? = some tagMark

/-- The type of a field, from the blanks behind its name and the text behind them.  A trailing tag
is dropped.  Where the tag follows the blanks at once, the last blank is all that remains for the
type, provided that another one still divides it from the name. -/
def fieldType? (gap text : List Char) : Option (List Char) :=
  let before := text.takeWhile (· ≠ tagMark)
  let tag := text.dropWhile (· ≠ tagMark)
  if gap = [] then none
  else if tag = [] then if before = [] then none else some before
  else if !isTag tag then none
  else if before ≠ [] then some (trimEnd before)
  else if 2 ≤ gap.length then gap.getLast?.map ([·])
  else none

/-- A field: a name, blanks, a type and an optional tag. -/
def field? (line : List Char) : Option Field := do
  let (name, rest) ← name? line
  let type ← fieldType? (rest.takeWhile isBlank) (rest.dropWhile isBlank)
  return ⟨String.ofList name, String.ofList type⟩

/-- A required method: a name, a parameter list and the results. -/
def method? (line : List Char) : Option Method := do
  let (name, rest) ← name? line
  let (params, returns) ← parameters? rest
  return methodOf name params returns

def Member.ofLine? (kind : Kind) (line : List Char) : Option Member :=
  match embedding? line with
  | some name => some (.embedding name)
  | none =>
    if kind = .aggregate then (field? line).map .field else (method? line).map .method

def members (kind : Kind) (body : List Char) : List Member :=
  (bodyLines body).filterMap (Member.ofLine? kind)

end TypeGraph.Source
