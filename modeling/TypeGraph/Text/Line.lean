import TypeGraph.Text.Blank

/-!
# Lines

A line ends at a line feed, a carriage return, the pair of both, a vertical tab, a form feed, one of
the file, group and record separators, the next-line control, or the line or paragraph separator.
The unit separator is blank and yet ends no line.
-/

namespace TypeGraph.Text

def lineBreakRanges : CodeRanges where
  ranges := [(0x0A, 0x0D), (0x1C, 0x1E), (0x85, 0x85), (0x2028, 0x2029)]

def isLineBreak (c : Char) : Bool := lineBreakRanges.covers c.toNat

def consLine (c : Char) : List (List Char) → List (List Char)
  | [] => [[c]]
  | line :: lines => (c :: line) :: lines

/-- The lines of a text, without their line breaks.  A break at the very end opens no new line. -/
def lines : List Char → List (List Char)
  | [] => []
  | '\r' :: '\n' :: cs => [] :: lines cs
  | c :: cs => if isLineBreak c then [] :: lines cs else consLine c (lines cs)

/-- The lines of a text that hold more than blanks, each without the blanks at its ends. -/
def bodyLines (body : List Char) : List (List Char) :=
  ((lines body).map trim).filter (· ≠ [])

/-- Reads a carriage return, alone or before a line feed, as one line feed. -/
def unifyNewlines : List Char → List Char
  | [] => []
  | '\r' :: '\n' :: cs => '\n' :: unifyNewlines cs
  | c :: cs => (if c = '\r' then '\n' else c) :: unifyNewlines cs

end TypeGraph.Text
