import TypeGraph.Console.Colour
import TypeGraph.Text.Blank
import TypeGraph.Text.Case

/-!
# Names of styles

A style is named by words: attributes, which have short forms, and colours.  Two names are the same
style when they have the same normal form, in which attributes stand in a fixed order in front of
the colours.  A name that is no style is its own normal form but for case.
-/

namespace TypeGraph.Console

def attributeNames : List (String × List String) :=
  [("bold", ["b"]), ("dim", ["d"]), ("italic", ["i"]), ("underline", ["u"]), ("blink", []),
   ("blink2", []), ("reverse", ["r"]), ("conceal", ["c"]), ("strike", ["s"]),
   ("underline2", ["uu"]), ("frame", []), ("encircle", []), ("overline", ["o"])]

def attribute? (word : String) : Option String :=
  (attributeNames.find? fun (name, short) => name = word || short.contains word).map (·.1)

structure Style where
  attributes : List (String × Bool) := []
  colour : Option String := none
  background : Option String := none
  link : Option String := none

/-- Reads the words of a style.  The words `on`, `not` and `link` say what the next word is. -/
def Style.ofWords (s : Style) : List String → Except ColourError Style
  | [] => .ok s
  | word :: rest =>
    let small := Text.lowerCase word
    match small, rest with
    | "on", colour :: rest => do
      let colour := Text.lowerCase colour
      checkColour colour
      Style.ofWords { s with background := some colour } rest
    | "not", name :: rest =>
      match attribute? name with
      | some name => Style.ofWords { s with attributes := (name, false) :: s.attributes } rest
      | none => .error .unknown
    | "link", address :: rest => Style.ofWords { s with link := some address } rest
    | small, rest =>
      match attribute? small with
      | some name => Style.ofWords { s with attributes := (name, true) :: s.attributes } rest
      | none => do
        checkColour small
        Style.ofWords { s with colour := some small } rest

def Style.text (s : Style) : String :=
  let shown := attributeNames.filterMap fun (name, _) =>
    (s.attributes.lookup name).map fun on => if on then name else "not " ++ name
  let words := shown ++ s.colour.toList ++ s.background.toList.map ("on " ++ ·) ++
    s.link.toList.map ("link " ++ ·)
  if words = [] then "none" else " ".intercalate words

def wordsOf (s : List Char) : List String :=
  ((s.splitBy fun a b => Text.isBlank a = Text.isBlank b).filter fun run =>
    !run.all Text.isBlank).map String.ofList

def Style.ofName (name : String) : Except ColourError Style :=
  let words := wordsOf name.toList
  if words = ["none"] then .ok {} else Style.ofWords {} words

/-- The normal form of a style's name.  Only a colour with a blank component has none. -/
def normalStyle (name : String) : Except ColourError String :=
  match Style.ofName name with
  | .ok style => .ok style.text
  | .error .unknown => .ok (Text.lowerCase (Text.strip name))
  | .error .blankComponent => .error .blankComponent

end TypeGraph.Console
