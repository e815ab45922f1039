import TypeGraph.Text.Utf8

/-!
# Grids of characters

A large character set numbers its cells row by row.  A grid holds the characters of its cells as
runs: the number of the first cell of a run, and the characters from there on.
-/

namespace TypeGraph.Charset

open Utf8 (replacement)

/-- Runs of characters by the number of their first cells, in ascending order; the replacement
character marks a cell that holds nothing. -/
structure Grid where
  runs : List (Nat × String)

def Grid.get? (grid : Grid) (cell : Nat) : Option Char := do
  let (start, text) ← (grid.runs.takeWhile fun run => run.1 ≤ cell).getLast?
  let c ← text.toList[cell - start]?
  if c = replacement then none else some c

def Grid.chars (grid : Grid) : List Char :=
  (grid.runs.flatMap fun run => run.2.toList).filter (· ≠ replacement)

/-- The codes from `first` on, `count` many, that no cell of the grid holds. -/
def missingFrom (grid : Grid) (first count : Nat) : Array Nat :=
  let taken := grid.chars.foldl (fun (marks : Array Bool) c =>
      if first ≤ c.toNat then marks.setIfInBounds (c.toNat - first) true else marks)
    (Array.replicate count false)
  ((List.range count).filter fun i => taken[i]? = some false).toArray.map (first + ·)

def side : Nat := 94

/-- The cell of two bytes from 0x21 to 0x7E each. -/
def cell? (first second : Nat) : Option Nat :=
  if 0x21 ≤ first ∧ first ≤ 0x7E ∧ 0x21 ≤ second ∧ second ≤ 0x7E then
    some ((first - 0x21) * side + (second - 0x21))
  else none

/-- The cell of two bytes from 0xA1 to 0xFE each. -/
def highCell? (first second : UInt8) : Option Nat :=
  if 0x80 ≤ first ∧ 0x80 ≤ second then cell? (first.toNat - 0x80) (second.toNat - 0x80) else none

end TypeGraph.Charset
