import TypeGraph.Proofs.Comments
import TypeGraph.Proofs.Grammar
import TypeGraph.Proofs.Inventory

/-!
# Programs of the supported subset

The supported subset as syntax: struct and interface declarations whose bodies hold one member a
line, and methods with a receiver.  The texts that may stand for types, parameters, results, tags
and method bodies carry the conditions under which they are supported, so every program is one that
can be written.  A program is printed with one item after the other, and says by its syntax alone
what its inventory is.
-/

namespace TypeGraph.Program

open TypeGraph.Source TypeGraph.Text

/-! ## Syntax -/

structure Name where
  chars : List Char
  isName : IsName chars

/-- A text on one line, without blanks at its ends, braces, tag marks and comments. -/
structure Fragment where
  chars : List Char
  trimmed : Trimmed chars
  plain : ∀ c ∈ chars, c ≠ '{' ∧ c ≠ '}' ∧ c ≠ tagMark ∧ isLineBreak c = false
  uncommented : Uncommented chars

/-- The text of a type, or of the results of a method in an interface. -/
structure TypeText extends Fragment where
  ne_nil : chars ≠ []

structure Params extends Fragment where
  oneLevel : OneLevel chars

/-- The text of the results of a method with a receiver: `type` does not stand in front of a blank
in it. -/
structure Results extends TypeText where
  no_type : ∀ (a b : List Char) (c : Char),
    chars = a ++ ['t', 'y', 'p', 'e'] ++ c :: b → isBlank c = false

structure Body where
  chars : List Char
  no_brace : '{' ∉ chars ∧ '}' ∉ chars
  uncommented : Uncommented chars
  no_func : ¬ ['f', 'u', 'n', 'c'] <:+: chars

structure Reference where
  pointer : Bool
  name : Name

inductive StructLine where
  | embedding (type : Reference)
  | field (name : Name) (type : TypeText) (tag : Option Fragment)

inductive InterfaceLine where
  | embedding (type : Reference)
  | method (name : Name) (params : Params) (results : Option TypeText)

inductive Item where
  | struct (name : Name) (members : List StructLine)
  | interface (name : Name) (members : List InterfaceLine)
  | method (self : Name) (receiver : Reference) (name : Name) (params : Params)
      (results : Option Results) (body : Body)

/-! ## Printing -/

def Reference.text (r : Reference) : List Char :=
  if r.pointer then '*' :: r.name.chars else r.name.chars

def StructLine.text : StructLine → List Char
  | .embedding r => r.text
  | .field name type none => name.chars ++ ' ' :: type.chars
  | .field name type (some tag) =>
      name.chars ++ ' ' :: (type.chars ++ ' ' :: tagMark :: (tag.chars ++ [tagMark]))

def InterfaceLine.text : InterfaceLine → List Char
  | .embedding r => r.text
  | .method name params none => name.chars ++ '(' :: (params.chars ++ [')'])
  | .method name params (some results) =>
      name.chars ++ '(' :: (params.chars ++ ')' :: ' ' :: results.chars)

def block (lines : List (List Char)) : List Char := '\n' :: lines.flatMap (· ++ ['\n'])

def declarationText (name : Name) (keyword : Keyword) (lines : List (List Char)) : List Char :=
  ['t', 'y', 'p', 'e', ' '] ++
    (name.chars ++ ' ' :: (keyword.word ++ ' ' :: '{' :: (block lines ++ ['}'])))

/-- What stands between a parameter list and the opening brace of a body. -/
def resultsText : Option Results → List Char
  | none => [' ']
  | some results => ' ' :: (results.chars ++ [' '])

/-- The head of a method as written, up to the closing parenthesis of its parameters. -/
def headText (self : Name) (receiver : Reference) (name : Name) (params : Params) : List Char :=
  ['f', 'u', 'n', 'c', ' ', '('] ++ (self.chars ++ ' ' :: (receiver.text ++
    ')' :: ' ' :: (name.chars ++ '(' :: (params.chars ++ [')']))))

def Item.text : Item → List Char
  | .struct name members => declarationText name .struct (members.map (·.text))
  | .interface name members => declarationText name .interface (members.map (·.text))
  | .method self receiver name params results body =>
      headText self receiver name params ++
        (resultsText results ++ '{' :: (body.chars ++ ['}']))

def chars (program : List Item) : List Char := program.flatMap (·.text ++ ['\n'])

def source (program : List Item) : String := String.ofList (chars program)

example :
    let reader : Name := ⟨['R'], by simp, forall_mem_of_all (by decide)⟩
    let writer : Name := ⟨['W'], by simp, forall_mem_of_all (by decide)⟩
    source [.struct reader [.embedding ⟨true, writer⟩], .interface writer []] =
      "type R struct \x7b\n*W\n\x7d\ntype W interface \x7b\n\x7d\n" := by
  decide

/-! ## The inventory of a program -/

def Name.toString (n : Name) : String := String.ofList n.chars

def Fragment.toString (f : Fragment) : String := String.ofList f.chars

def StructLine.embedded? : StructLine → Option String
  | .embedding r => some r.name.toString
  | .field .. => none

def StructLine.field? : StructLine → Option Field
  | .embedding _ => none
  | .field name type _ => some ⟨name.toString, type.toString⟩

def InterfaceLine.embedded? : InterfaceLine → Option String
  | .embedding r => some r.name.toString
  | .method .. => none

def InterfaceLine.method? : InterfaceLine → Option Method
  | .embedding _ => none
  | .method name params results =>
      some ⟨name.toString, params.toString, (results.map (·.toString)).getD ""⟩

def Item.contents? : Item → Option Contents
  | .struct name members =>
      some {
        name := name.toString
        kind := .aggregate
        embeds := members.filterMap (·.embedded?)
        fields := members.filterMap (·.field?) }
  | .interface name members =>
      some {
        name := name.toString
        kind := .contract
        embeds := members.filterMap (·.embedded?)
        methods := members.filterMap (·.method?) }
  | .method .. => none

def Item.received? : Item → Option (String × Method)
  | .method _ receiver name params results _ =>
      some (receiver.name.toString,
        ⟨name.toString, params.toString, (results.map (·.toString)).getD ""⟩)
  | _ => none

def inventory (program : List Item) : Inventory where
  declared := program.filterMap (·.contents?)
  received := program.filterMap (·.received?)

end TypeGraph.Program
