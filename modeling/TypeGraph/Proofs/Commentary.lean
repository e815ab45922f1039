import TypeGraph.Extraction
import TypeGraph.Proofs.Comments

/-!
# Comments do not count

A text whose comments are marked off: plain pieces with a comment between any two of them.  What the
comments say is free, as long as a block does not close early and a line comment ends with its line.
Cutting comments out gives the plain pieces back, so extraction sees the pieces alone.
-/

namespace TypeGraph.Source

/-- A comment: a block that its own text does not close, or the rest of a line. -/
inductive Comment where
  | block (text : List Char) (stays_open : ¬ ['*', '/'] <:+: text)
  | line (text : List Char) (one_line : '\n' ∉ text)

def Comment.chars : Comment → List Char
  | .block text _ => '/' :: '*' :: (text ++ ['*', '/'])
  | .line text _ => '/' :: '/' :: text

/-- A text with its comments marked off: a first piece, and then comments with the piece that
follows each of them. -/
structure Commentary where
  first : List Char
  later : List (Comment × List Char) := []

namespace Commentary

def pieces (t : Commentary) : List (List Char) := t.first :: t.later.map (·.2)

def written (t : Commentary) : List Char := t.first ++ t.later.flatMap fun (c, p) => c.chars ++ p

def plain (t : Commentary) : List Char := t.pieces.flatten

/-- The marks are where the comments are: no comment opens inside a piece or at the seam behind it,
and a line comment ends at the end of its line, or of the text. -/
structure Sound (t : Commentary) : Prop where
  uncommented : ∀ p ∈ t.pieces, Uncommented p
  ends : ∀ p ∈ t.pieces.dropLast, p.getLast? ≠ some '/'
  lines : ∀ i text h p, t.later[i]? = some (.line text h, p) →
    p.head? = some '\n' ∨ (i + 1 = t.later.length ∧ p = [])

end Commentary

/-! ## One piece, one comment -/

theorem uncommented_append {a b : List Char} (ha : Uncommented a) (hend : a.getLast? ≠ some '/') :
    Uncommented (a ++ b) ↔ Uncommented b := by
  induction a with
  | nil => rfl
  | cons c a ih =>
      cases a with
      | nil =>
          have hc : c ≠ '/' := fun hc => hend (by rw [hc]; rfl)
          exact uncommented_cons_of_ne hc
      | cons d a =>
          obtain ⟨hopens, ha⟩ := uncommented_cons.mp ha
          rw [List.getLast?_cons_cons] at hend
          rw [List.cons_append, uncommented_cons, ih ha hend]
          exact and_iff_right hopens

/-- Nothing is cut out of a piece, and the search goes on behind it. -/
theorem stripComments_append {a : List Char} (ha : Uncommented a) (hend : a.getLast? ≠ some '/')
    (rest : List Char) : stripComments (a ++ rest) = a ++ stripComments rest := by
  induction a with
  | nil => rfl
  | cons c a ih =>
      obtain ⟨hopens, ha⟩ := uncommented_cons.mp ha
      cases a with
      | nil =>
          have hc : c ≠ '/' := fun hc => hend (by rw [hc]; rfl)
          exact stripComments_cons fun h => absurd h hc
      | cons d a =>
          rw [List.getLast?_cons_cons] at hend
          rw [List.cons_append, stripComments_cons (s := d :: a ++ rest) fun h => (hopens h).symm,
            ih ha hend]
          rfl

/-- A block ends behind the first `*/`, whatever else its text holds. -/
theorem afterBlockComment_append {text : List Char} (h : ¬ ['*', '/'] <:+: text)
    (rest : List Char) : afterBlockComment (text ++ '*' :: '/' :: rest) = some rest := by
  induction text with
  | nil => rfl
  | cons c text ih =>
      rw [List.infix_cons_iff, not_or] at h
      have hopen : ¬ (c = '*' ∧ (text ++ '*' :: '/' :: rest).head? = some '/') := by
        rintro ⟨rfl, hhead⟩
        apply h.1
        cases text with
        | nil => exact absurd hhead (by simp)
        | cons d text => simp_all
      rw [List.cons_append, afterBlockComment_cons hopen, ih h.2]

theorem stripComments_block {text : List Char} (h : ¬ ['*', '/'] <:+: text) (rest : List Char) :
    stripComments ('/' :: '*' :: (text ++ '*' :: '/' :: rest)) = stripComments rest := by
  rw [stripComments]
  split
  · rename_i rest' hrest'
    rw [afterBlockComment_append h] at hrest'
    rw [Option.some.inj hrest']
  · rename_i hnone
    rw [afterBlockComment_append h] at hnone
    cases hnone

theorem stripComments_line {text rest : List Char} (h : '\n' ∉ text)
    (hrest : rest.head? = some '\n' ∨ rest = []) :
    stripComments ('/' :: '/' :: (text ++ rest)) = stripComments rest := by
  have hline : ∀ c ∈ text, decide (c ≠ '\n') = true := by
    intro c hc
    have hne : c ≠ '\n' := fun heq => h (heq ▸ hc)
    simpa using hne
  have hstop : rest.dropWhile (· ≠ '\n') = rest := by
    rcases hrest with hhead | rfl
    · cases rest with
      | nil => rfl
      | cons c rest =>
          obtain rfl : c = '\n' := by simpa using hhead
          rfl
    · rfl
  rw [stripComments, List.dropWhile_append_of_pos hline, hstop]

/-! ## All of them -/

namespace Commentary

variable {first piece : List Char} {c : Comment} {later : List (Comment × List Char)}

theorem Sound.tail (h : Sound ⟨first, (c, piece) :: later⟩) : Sound ⟨piece, later⟩ where
  uncommented p hp := h.uncommented p (List.mem_cons_of_mem first hp)
  ends p hp := h.ends p (List.mem_cons_of_mem first hp)
  lines i text hline p hp := by
    rcases h.lines (i + 1) text hline p hp with hhead | ⟨hlength, hnil⟩
    · exact Or.inl hhead
    · exact Or.inr ⟨Nat.succ.inj hlength, hnil⟩

theorem Sound.first_uncommented (h : Sound ⟨first, later⟩) : Uncommented first :=
  h.uncommented first List.mem_cons_self

theorem Sound.first_ends (h : Sound ⟨first, (c, piece) :: later⟩) : first.getLast? ≠ some '/' :=
  h.ends first List.mem_cons_self

/-- Behind a line comment the line ends, or the text. -/
theorem Sound.line_ends {text : List Char} {hline : '\n' ∉ text}
    (h : Sound ⟨first, (.line text hline, piece) :: later⟩) :
    (written ⟨piece, later⟩).head? = some '\n' ∨ written ⟨piece, later⟩ = [] := by
  rcases h.lines 0 text hline piece rfl with hhead | ⟨hlength, rfl⟩
  · left
    cases piece with
    | nil => exact absurd hhead (by simp)
    | cons c piece => simpa [written] using hhead
  · right
    obtain rfl : later = [] := List.length_eq_zero_iff.mp (Nat.succ.inj hlength).symm
    rfl

theorem Sound.stripComments_comment (h : Sound ⟨first, (c, piece) :: later⟩) :
    stripComments (c.chars ++ written ⟨piece, later⟩) =
      stripComments (written ⟨piece, later⟩) := by
  cases c with
  | block text stays_open =>
      have hchars : (Comment.block text stays_open).chars ++ written ⟨piece, later⟩ =
          '/' :: '*' :: (text ++ '*' :: '/' :: written ⟨piece, later⟩) := by simp [Comment.chars]
      rw [hchars, stripComments_block stays_open]
  | line text one_line => exact stripComments_line one_line h.line_ends

theorem written_cons :
    written ⟨first, (c, piece) :: later⟩ = first ++ (c.chars ++ written ⟨piece, later⟩) := by
  simp [written]

theorem plain_cons :
    plain ⟨first, (c, piece) :: later⟩ = first ++ plain ⟨piece, later⟩ := rfl

/-- The search falls into step again behind every comment. -/
theorem Sound.stripComments_written {t : Commentary} (h : t.Sound) :
    stripComments t.written = t.plain := by
  obtain ⟨first, later⟩ := t
  induction later generalizing first with
  | nil =>
      have hpiece : written ⟨first, []⟩ = first ∧ plain ⟨first, []⟩ = first := by
        simp [written, plain, pieces]
      rw [hpiece.1, hpiece.2, stripComments_of_uncommented h.first_uncommented]
  | cons part later ih =>
      obtain ⟨c, piece⟩ := part
      rw [written_cons, stripComments_append h.first_uncommented h.first_ends,
        h.stripComments_comment, ih piece h.tail, plain_cons]

/-- No comment opens across a seam that a comment has left. -/
theorem Sound.uncommented_plain {t : Commentary} (h : t.Sound) : Uncommented t.plain := by
  obtain ⟨first, later⟩ := t
  induction later generalizing first with
  | nil =>
      have hpiece : plain ⟨first, []⟩ = first := by simp [plain, pieces]
      rw [hpiece]
      exact h.first_uncommented
  | cons part later ih =>
      obtain ⟨c, piece⟩ := part
      rw [plain_cons, uncommented_append h.first_uncommented h.first_ends]
      exact ih piece h.tail

/-- **Comments do not count.**  Cutting comments out of a commented text gives its plain pieces, and
the text has the graph of the plain pieces. -/
theorem stripComments_ofSource_written (t : Commentary) (h : t.Sound) :
    stripComments t.written = t.plain ∧
      Graph.ofSource (String.ofList t.written) = Graph.ofSource (String.ofList t.plain) := by
  have hwritten := h.stripComments_written
  have hplain := stripComments_of_uncommented h.uncommented_plain
  refine ⟨hwritten, ?_⟩
  simp only [Graph.ofSource, Extraction.ofSource, String.toList_ofList, hwritten, hplain]

/-- A block that starts with `/*/`, holds both openings and a declaration and ends in stars, and a
line comment that opens a block and closes a body. -/
def crowded : Commentary where
  first := "type T ".toList
  later := [
    (.block "/ // /* type X struct \x7b\x7d **".toList (by decide +kernel), "struct \x7b".toList),
    (.line " \x7d /* ".toList (by decide +kernel), "\n\x7d/".toList)]

theorem stripComments_crowded :
    String.ofList crowded.written =
        "type T /*/ // /* type X struct \x7b\x7d ***/struct \x7b// \x7d /* \n\x7d/" ∧
      crowded.Sound ∧ stripComments crowded.written = "type T struct \x7b\n\x7d/".toList ∧
      Graph.ofSource (String.ofList crowded.written) =
        Graph.ofSource (String.ofList "type T struct \x7b\n\x7d/".toList) := by
  have hsound : crowded.Sound := by
    refine ⟨?_, ?_, ?_⟩
    · unfold Uncommented
      decide +kernel
    · decide +kernel
    · intro i text hline p hp
      match i with
      | 0 => cases hp
      | 1 =>
          cases hp
          exact Or.inl rfl
      | i + 2 => cases hp
  have hplain : crowded.plain = "type T struct \x7b\n\x7d/".toList := by decide +kernel
  refine ⟨by decide +kernel, hsound, ?_⟩
  rw [← hplain]
  exact stripComments_ofSource_written crowded hsound

end Commentary

end TypeGraph.Source
