import TypeGraph.Proofs.Commentary
import TypeGraph.Proofs.Trimming

/-!
# No comment is left behind

Cutting a comment out brings characters together that were apart, and these could open or close
another comment.  They never do.  A slash in front of a comment would make a line comment of the
two, so what stands in front of a cut is no slash; and behind a block that is never closed only line
comments are cut out, each up to the end of a line.  Any text is cut into pieces that stay and the
comments that a search from the left comes upon.
-/

namespace TypeGraph.Source

/-- A comment stands at the start of the text. -/
def OpensComment (s : List Char) : Prop := ∃ c : Comment, c.chars <+: s

/-- No comment stands anywhere in the text. -/
def CommentFree (s : List Char) : Prop := ∀ c : Comment, ¬ c.chars <:+: s

/-! ## Where comments open -/

theorem exists_of_afterBlockComment {s rest : List Char} (h : afterBlockComment s = some rest) :
    ∃ text, ¬ ['*', '/'] <:+: text ∧ s = text ++ '*' :: '/' :: rest := by
  fun_induction afterBlockComment s with
  | case1 => exact absurd h (by simp)
  | case2 r =>
      injection h with hr
      exact ⟨[], by simp, by rw [hr]; rfl⟩
  | case3 c r hopen ih =>
      obtain ⟨text, htext, rfl⟩ := ih h
      refine ⟨c :: text, ?_, rfl⟩
      rw [List.infix_cons_iff, not_or]
      refine ⟨?_, htext⟩
      intro hstart
      obtain ⟨rfl, k, rfl⟩ := List.cons_prefix_cons.mp hstart
      exact hopen _ rfl rfl

theorem afterBlockComment_eq_none_iff {s : List Char} :
    afterBlockComment s = none ↔ ¬ ['*', '/'] <:+: s := by
  constructor
  · intro h hinside
    fun_induction afterBlockComment s with
    | case1 => exact absurd hinside (by simp)
    | case2 r => exact absurd h (by simp)
    | case3 c r hopen ih =>
        rcases List.infix_cons_iff.mp hinside with hstart | hinside
        · obtain ⟨rfl, k, rfl⟩ := List.cons_prefix_cons.mp hstart
          exact hopen _ rfl rfl
        · exact ih h hinside
  · intro h
    cases hafter : afterBlockComment s with
    | none => rfl
    | some rest =>
        obtain ⟨text, -, rfl⟩ := exists_of_afterBlockComment hafter
        exact absurd ⟨text, rest, by simp⟩ h

/-- A comment opens at two slashes, and at a slash and a star that are closed later. -/
theorem opensComment_iff {s : List Char} :
    OpensComment s ↔
      (∃ cs, s = '/' :: '/' :: cs) ∨ ∃ cs, s = '/' :: '*' :: cs ∧ ['*', '/'] <:+: cs := by
  constructor
  · rintro ⟨⟨text, hopen⟩ | ⟨text, hline⟩, rest, rfl⟩
    · right
      exact ⟨text ++ '*' :: '/' :: rest, by simp [Comment.chars], ⟨text, rest, by simp⟩⟩
    · left
      exact ⟨text ++ rest, rfl⟩
  · rintro (⟨cs, rfl⟩ | ⟨cs, rfl, hclosed⟩)
    · exact ⟨.line [] (by simp), cs, rfl⟩
    · cases hafter : afterBlockComment cs with
      | none => exact absurd hclosed (afterBlockComment_eq_none_iff.mp hafter)
      | some rest =>
          obtain ⟨text, htext, rfl⟩ := exists_of_afterBlockComment hafter
          exact ⟨.block text htext, rest, by simp [Comment.chars]⟩

theorem not_opensComment_nil : ¬ OpensComment [] := by simp [opensComment_iff]

theorem commentFree_nil : CommentFree [] := by
  rintro ⟨⟩ h <;> simp [Comment.chars] at h

theorem commentFree_cons {c : Char} {s : List Char} :
    CommentFree (c :: s) ↔ ¬ OpensComment (c :: s) ∧ CommentFree s := by
  simp only [CommentFree, OpensComment, List.infix_cons_iff, not_or, not_exists]
  exact forall_and

/-- No comment stands in a text without two slashes in a row and without a slash and a star that are
closed later. -/
theorem commentFree_iff {s : List Char} :
    CommentFree s ↔
      ¬ ['/', '/'] <:+: s ∧ ∀ text, ¬ '/' :: '*' :: (text ++ ['*', '/']) <:+: s := by
  constructor
  · intro h
    have hopens : ∀ x, OpensComment x → ¬ x <:+: s := by
      rintro x ⟨c, hc⟩ hx
      exact h c (hc.isInfix.trans hx)
    refine ⟨hopens _ (opensComment_iff.mpr (Or.inl ⟨[], rfl⟩)), ?_⟩
    intro text
    exact hopens _ (opensComment_iff.mpr (Or.inr ⟨_, rfl, ⟨text, [], by simp⟩⟩))
  · rintro ⟨hline, hblock⟩ (⟨text, hopen⟩ | ⟨text, hone⟩) hinside
    · exact hblock text hinside
    · have hstart : ['/', '/'] <+: (Comment.line text hone).chars := ⟨text, rfl⟩
      exact hline (hstart.isInfix.trans hinside)

/-! ## What stripping keeps -/

/-- Where no comment opens, the character stays. -/
theorem stripComments_cons_of_not_opens {c : Char} {s : List Char} (h : ¬ OpensComment (c :: s)) :
    stripComments (c :: s) = c :: stripComments s := by
  rw [opensComment_iff, not_or] at h
  generalize htext : c :: s = t at h ⊢
  fun_cases stripComments t with
  | case1 => exact absurd htext (by simp)
  | case2 cs rest hafter =>
      obtain ⟨text, -, rfl⟩ := exists_of_afterBlockComment hafter
      exact absurd ⟨_, rfl, ⟨text, rest, by simp⟩⟩ h.2
  | case3 cs hafter =>
      injection htext with hc hs
      rw [hc, hs]
  | case4 cs => exact absurd ⟨cs, rfl⟩ h.1
  | case5 d cs _ _ =>
      injection htext with hc hs
      rw [hc, hs]

theorem stripComments_of_commentFree {s : List Char} (h : CommentFree s) :
    stripComments s = s := by
  induction s with
  | nil => simp [stripComments]
  | cons c s ih =>
      obtain ⟨hopens, hrest⟩ := commentFree_cons.mp h
      rw [stripComments_cons_of_not_opens hopens, ih hrest]

/-- A character other than a slash opens no comment. -/
theorem head?_stripComments {s : List Char} (h : s.head? ≠ some '/') :
    (stripComments s).head? = s.head? := by
  cases s with
  | nil => simp [stripComments]
  | cons c s =>
      have hc : c ≠ '/' := by simpa using h
      rw [stripComments_cons fun heq => absurd heq hc]
      rfl

/-- Cutting comments out closes no block that was not closed: a star in front of a slash that stays
was in front of it before. -/
theorem not_closes_stripComments {s : List Char} (h : ¬ ['*', '/'] <:+: s) :
    ¬ ['*', '/'] <:+: stripComments s := by
  fun_induction stripComments s with
  | case1 => exact h
  | case2 cs rest hafter ih =>
      obtain ⟨text, -, rfl⟩ := exists_of_afterBlockComment hafter
      exact absurd ⟨'/' :: '*' :: text, rest, by simp⟩ h
  | case3 cs hafter ih =>
      have hrest : ¬ ['*', '/'] <:+: '*' :: cs :=
        fun hinside => h (hinside.trans (List.suffix_cons '/' _).isInfix)
      rw [List.infix_cons_iff, not_or]
      exact ⟨by simp, ih hrest⟩
  | case4 cs ih =>
      have hsuffix : cs.dropWhile (· ≠ '\n') <:+ '/' :: '/' :: cs :=
        (List.dropWhile_suffix _).trans ⟨['/', '/'], rfl⟩
      exact ih fun hinside => h (hinside.trans hsuffix.isInfix)
  | case5 c cs _ _ ih =>
      rw [List.infix_cons_iff, not_or] at h ⊢
      refine ⟨?_, ih h.2⟩
      intro hstart
      obtain ⟨rfl, k, hk⟩ := List.cons_prefix_cons.mp hstart
      have hslash : cs.head? ≠ some '/' := by
        intro hhead
        obtain ⟨cs', rfl⟩ : ∃ cs', cs = '/' :: cs' := List.head?_eq_some_iff.mp hhead
        exact h.1 ⟨cs', rfl⟩
      rw [← head?_stripComments hslash, ← hk] at hslash
      exact hslash rfl

/-- **No comment is left behind.** -/
theorem commentFree_stripComments (s : List Char) : CommentFree (stripComments s) := by
  fun_induction stripComments s with
  | case1 => exact commentFree_nil
  | case2 cs rest hafter ih => exact ih
  | case3 cs hafter ih =>
      rw [commentFree_cons]
      refine ⟨?_, ih⟩
      rw [stripComments_cons (by simp), opensComment_iff]
      rintro (⟨cs', hopens⟩ | ⟨cs', hopens, hclosed⟩)
      · injection hopens with _ hrest
        injection hrest with hslash
        exact absurd hslash (by decide)
      · obtain rfl : stripComments cs = cs' := by simpa using hopens
        exact not_closes_stripComments (afterBlockComment_eq_none_iff.mp hafter) hclosed
  | case4 cs ih => exact ih
  | case5 c cs hblock hline ih =>
      rw [commentFree_cons]
      refine ⟨?_, ih⟩
      rw [opensComment_iff]
      have hnot : ∀ d cs', c :: stripComments cs = '/' :: d :: cs' → d = '/' ∨ d = '*' → False := by
        intro d cs' heq hd
        injection heq with hc hrest
        have hslash : cs.head? ≠ some '/' := by
          intro hhead
          obtain ⟨k, rfl⟩ := List.head?_eq_some_iff.mp hhead
          exact hline k hc rfl
        have hstar : cs.head? ≠ some '*' := by
          intro hhead
          obtain ⟨k, rfl⟩ := List.head?_eq_some_iff.mp hhead
          exact hblock k hc rfl
        have hhead : cs.head? = some d := by
          rw [← head?_stripComments hslash, hrest]
          rfl
        rcases hd with rfl | rfl
        · exact hslash hhead
        · exact hstar hhead
      rintro (⟨cs', heq⟩ | ⟨cs', heq, -⟩)
      · exact hnot '/' cs' heq (Or.inl rfl)
      · exact hnot '*' cs' heq (Or.inr rfl)

/-! ## Pieces and comments of any text -/

/-- A block ends where it is closed, a line comment at the end of the line or of the text. -/
def Comment.EndsBefore : Comment → List Char → Prop
  | .block _ _, _ => True
  | .line _ _, rest => rest.head? = some '\n' ∨ rest = []

/-- The text of a block. -/
def Comment.block? : Comment → Option (List Char)
  | .block text _ => some text
  | .line _ _ => none

namespace Commentary

/-- The comments are those that a search from the left comes upon: none opens in a piece. -/
inductive Leftmost : Commentary → Prop
  | last {first : List Char} (hfirst : ∀ y, y <:+ first → ¬ OpensComment y) :
      Leftmost ⟨first, []⟩
  | comment {first piece : List Char} {c : Comment} {later : List (Comment × List Char)}
      (hfirst : ∀ y, y <:+ first → y ≠ [] →
        ¬ OpensComment (y ++ (c.chars ++ written ⟨piece, later⟩)))
      (hends : c.EndsBefore (written ⟨piece, later⟩)) (hlater : Leftmost ⟨piece, later⟩) :
      Leftmost ⟨first, (c, piece) :: later⟩

def blocks (t : Commentary) : List (List Char) := t.later.filterMap fun (c, _) => c.block?

variable {first piece : List Char} {c : Comment} {later : List (Comment × List Char)}

theorem written_nil : written ⟨first, []⟩ = first := by simp [written]

theorem plain_nil : plain ⟨first, []⟩ = first := by simp [plain, pieces]

/-- A character at which no comment opens goes to the first piece. -/
theorem Leftmost.cons {d : Char} (h : Leftmost ⟨first, later⟩)
    (hopens : ¬ OpensComment (d :: written ⟨first, later⟩)) : Leftmost ⟨d :: first, later⟩ := by
  cases h with
  | last hfirst =>
      refine .last ?_
      intro y hy
      rcases List.suffix_cons_iff.mp hy with rfl | hy
      · rwa [written_nil] at hopens
      · exact hfirst y hy
  | comment hfirst hends hlater =>
      refine .comment ?_ hends hlater
      intro y hy hne
      rcases List.suffix_cons_iff.mp hy with rfl | hy
      · rwa [written_cons] at hopens
      · exact hfirst y hy hne

theorem Leftmost.after (h : Leftmost ⟨piece, later⟩) (hends : c.EndsBefore (written ⟨piece, later⟩)) :
    Leftmost ⟨[], (c, piece) :: later⟩ := by
  refine .comment ?_ hends h
  intro y hy hne
  exact absurd (List.suffix_nil.mp hy) hne

/-- **Every text falls into pieces and comments**, of which the pieces stay. -/
theorem exists_leftmost (s : List Char) :
    ∃ t : Commentary, t.written = s ∧ t.plain = stripComments s ∧ t.Leftmost := by
  fun_induction stripComments s with
  | case1 =>
      refine ⟨⟨[], []⟩, written_nil, plain_nil, .last ?_⟩
      intro y hy
      rw [List.suffix_nil.mp hy]
      exact not_opensComment_nil
  | case2 cs rest hafter ih =>
      obtain ⟨⟨piece, later⟩, rfl, hplain, hleft⟩ := ih
      obtain ⟨text, htext, rfl⟩ := exists_of_afterBlockComment hafter
      refine ⟨⟨[], (.block text htext, piece) :: later⟩, ?_, ?_, hleft.after trivial⟩
      · simp [written_cons, Comment.chars]
      · rw [plain_cons, List.nil_append, hplain]
  | case3 cs hafter ih =>
      obtain ⟨⟨first, later⟩, hwritten, hplain, hleft⟩ := ih
      refine ⟨⟨'/' :: first, later⟩, ?_, ?_, hleft.cons ?_⟩
      · rw [← hwritten]
        rfl
      · rw [← hplain]
        rfl
      · rw [hwritten, opensComment_iff]
        rintro (⟨cs', heq⟩ | ⟨cs', heq, hclosed⟩)
        · exact absurd heq (by simp)
        · obtain rfl : cs = cs' := by simpa using heq
          exact afterBlockComment_eq_none_iff.mp hafter hclosed
  | case4 cs ih =>
      obtain ⟨⟨piece, later⟩, hwritten, hplain, hleft⟩ := ih
      have hone : '\n' ∉ cs.takeWhile (· ≠ '\n') := by
        intro hmem
        simpa using List.mem_takeWhile_imp hmem
      have hends : (Comment.line _ hone).EndsBefore (written ⟨piece, later⟩) := by
        rw [hwritten]
        have havoids := Text.avoids_dropWhile (· ≠ '\n') cs
        cases hrest : cs.dropWhile (· ≠ '\n') with
        | nil => exact Or.inr rfl
        | cons d rest =>
            rw [hrest, Text.avoids_cons] at havoids
            left
            simpa using havoids
      refine ⟨⟨[], (.line _ hone, piece) :: later⟩, ?_, ?_, hleft.after hends⟩
      · rw [written_cons, hwritten, List.nil_append, Comment.chars, List.cons_append,
          List.cons_append, List.takeWhile_append_dropWhile]
      · rw [plain_cons, List.nil_append, hplain]
  | case5 c cs hblock hline ih =>
      obtain ⟨⟨first, later⟩, hwritten, hplain, hleft⟩ := ih
      refine ⟨⟨c :: first, later⟩, ?_, ?_, hleft.cons ?_⟩
      · rw [← hwritten]
        rfl
      · rw [← hplain]
        rfl
      · rw [hwritten, opensComment_iff]
        rintro (⟨cs', heq⟩ | ⟨cs', heq, -⟩)
        · injection heq with hc hcs
          exact hline cs' hc hcs
        · injection heq with hc hcs
          exact hblock cs' hc hcs

theorem plain_sublist_written (t : Commentary) : t.plain.Sublist t.written := by
  obtain ⟨first, later⟩ := t
  induction later generalizing first with
  | nil => simp [plain_nil, written_nil]
  | cons part later ih =>
      obtain ⟨c, piece⟩ := part
      rw [plain_cons, written_cons]
      exact (List.Sublist.refl first).append
        ((ih piece).trans (List.sublist_append_right c.chars _))

/-- The line feeds of a text stay, apart from those in its blocks. -/
theorem count_newline_written (t : Commentary) :
    t.written.count '\n' = t.plain.count '\n' + t.blocks.flatten.count '\n' := by
  obtain ⟨first, later⟩ := t
  induction later generalizing first with
  | nil => simp [written_nil, plain_nil, blocks]
  | cons part later ih =>
      obtain ⟨c, piece⟩ := part
      rw [plain_cons, written_cons, List.count_append, List.count_append, List.count_append,
        ih piece]
      cases c with
      | block text hopen =>
          simp [blocks, Comment.block?, Comment.chars]
          omega
      | line text hone =>
          have hnone : text.count '\n' = 0 := List.count_eq_zero.mpr hone
          simp [blocks, Comment.block?, Comment.chars, hnone]
          omega

end Commentary

/-- **Stripping leaves no comment behind.**  There are no two slashes in a row in the result, and no
slash and star that are closed later, so that no comment stands in it and stripping it again changes
nothing.  The result is the text without the comments that a search from the left comes upon, and
every line feed outside the blocks among them is kept. -/
theorem stripComments_removes_all (s : List Char) :
    (¬ ['/', '/'] <:+: stripComments s ∧
      ∀ text, ¬ '/' :: '*' :: (text ++ ['*', '/']) <:+: stripComments s) ∧
    CommentFree (stripComments s) ∧
    stripComments (stripComments s) = stripComments s ∧
    (stripComments s).Sublist s ∧
    ∃ t : Commentary, t.Leftmost ∧ t.written = s ∧ t.plain = stripComments s ∧
      s.count '\n' = (stripComments s).count '\n' + t.blocks.flatten.count '\n' := by
  have hfree := commentFree_stripComments s
  obtain ⟨t, hwritten, hplain, hleft⟩ := Commentary.exists_leftmost s
  have hsublist := t.plain_sublist_written
  have hcount := t.count_newline_written
  rw [hwritten, hplain] at hsublist hcount
  exact ⟨commentFree_iff.mp hfree, hfree, stripComments_of_commentFree hfree, hsublist, t, hleft,
    hwritten, hplain, hcount⟩

end TypeGraph.Source
