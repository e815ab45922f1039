/-!
# Searching a text for a pattern

A pattern reads an item at the start of a text.  Its occurrences are found from left to right: where
the pattern reads, the search goes on behind what was read, and elsewhere one character further on.
A pattern takes at least one character, which is why the search ends.
-/

namespace TypeGraph.Source

/-- A reader of items that never leaves the text as long as it was. -/
structure Pattern (α : Type) where
  /-- The item at the start of the text and the rest behind it. -/
  read? : List Char → Option (α × List Char)
  /-- Something was taken. -/
  progress : ∀ {s a rest}, read? s = some (a, rest) → rest.length < s.length

/-- All items of a text, leftmost first and without overlap. -/
def Pattern.findAll {α : Type} (p : Pattern α) : List Char → List α
  | [] => []
  | c :: cs =>
    match _h : p.read? (c :: cs) with
    | some (a, rest) => a :: p.findAll rest
    | none => p.findAll cs
termination_by s => s.length
decreasing_by
  · exact p.progress _h
  · simp

end TypeGraph.Source
