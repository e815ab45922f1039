/-!
# Comments

A comment runs from `/*` to the nearest `*/`, or from `//` to the end of the line.  Comments are cut
out from left to right and the line feed after a line comment stays.  A `/*` that is never closed
opens no comment.  Delimiters inside string literals are not told apart from others.
-/

namespace TypeGraph.Source

/-- The text behind the nearest end of a block comment. -/
def afterBlockComment : List Char → Option (List Char)
  | [] => none
  | '*' :: '/' :: rest => some rest
  | _ :: rest => afterBlockComment rest

theorem length_afterBlockComment_le {s rest : List Char} (h : afterBlockComment s = some rest) :
    rest.length ≤ s.length := by
  fun_induction afterBlockComment s with
  | case1 => simp at h
  | case2 r => simp only [Option.some.injEq] at h; subst h; simp; omega
  | case3 c r _ ih => have := ih h; simp; omega

def stripComments : List Char → List Char
  | [] => []
  | '/' :: '*' :: cs =>
    match _h : afterBlockComment cs with
    | some rest => stripComments rest
    | none => '/' :: stripComments ('*' :: cs)
  | '/' :: '/' :: cs => stripComments (cs.dropWhile (· ≠ '\n'))
  | c :: cs => c :: stripComments cs
termination_by s => s.length
decreasing_by
  · have := length_afterBlockComment_le _h; simp; omega
  · simp
  · have : (cs.dropWhile (· ≠ '\n')).length ≤ cs.length := (List.dropWhile_suffix _).length_le
    simp only [List.length_cons]
    omega
  · simp

end TypeGraph.Source
