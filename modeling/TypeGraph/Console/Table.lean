import TypeGraph.Console.Markup
import TypeGraph.Text.Width

/-!
# Tables on a console

A table has a centred title, a header row in heavy lines and rows in light ones.  A column is as
wide as its widest cell, with a blank on either side.  The cells of the rows are marked-up texts.
The console is wide enough for the whole table, so no cell is folded.
-/

namespace TypeGraph.Console

structure Table where
  title : String
  header : List String
  rows : List (List String)

/-- The table with what its cells show in place of them. -/
def Table.shown (t : Table) : Except MarkupError Table := do
  let rows ← t.rows.mapM fun row => row.mapM showMarkup
  return { t with rows }

def textWidth (s : String) : Nat := Text.width s.toList

/-- A character several times over. -/
def times (n : Nat) (c : Char) : String := String.ofList (List.replicate n c)

def Table.widths (t : Table) : List Nat :=
  t.rows.foldl (fun ws row => List.zipWith max ws (row.map textWidth)) (t.header.map textWidth)

def Table.width (t : Table) : Nat := t.widths.foldl (· + · + 3) 1

/-- A line between rows: its ends, its crossings and what it is made of. -/
def rule (widths : List Nat) (left line crossing right : Char) : String :=
  String.singleton left ++
    (String.singleton crossing).intercalate (widths.map fun w => times (w + 2) line) ++
    String.singleton right

def rowLine (widths : List Nat) (bar : Char) (cells : List String) : String :=
  let padded := List.zipWith (fun w cell => " " ++ cell ++ times (w - textWidth cell) ' ' ++ " ")
    widths cells
  String.singleton bar ++ (String.singleton bar).intercalate padded ++ String.singleton bar

/-- A text in the middle of a width; an odd blank goes to the right. -/
def centred (width : Nat) (s : String) : String :=
  let blanks := width - textWidth s
  times (blanks / 2) ' ' ++ s ++ times (blanks - blanks / 2) ' '

def Table.lines (t : Table) : List String :=
  let ws := t.widths
  [centred t.width t.title, rule ws '┏' '━' '┳' '┓', rowLine ws '┃' t.header,
   rule ws '┡' '━' '╇' '┩'] ++ t.rows.map (rowLine ws '│') ++ [rule ws '└' '─' '┴' '┘']

end TypeGraph.Console
