import Mathlib.Tactic.Tauto
import TypeGraph.Source.Comment

/-!
# Texts without comments

A text in which no comment opens is left as it is when comments are cut out.  Whether one opens is
decided by neighbouring characters, so it can be told piece by piece: a character other than `/` and
`*` between two pieces keeps them apart.
-/

namespace TypeGraph.Source

/-- No comment opens in the text. -/
def Uncommented (s : List Char) : Prop := ¬ ['/', '/'] <:+: s ∧ ¬ ['/', '*'] <:+: s

theorem uncommented_nil : Uncommented [] := by simp [Uncommented]

theorem uncommented_cons {c : Char} {s : List Char} :
    Uncommented (c :: s) ↔
      (c = '/' → s.head? ≠ some '/' ∧ s.head? ≠ some '*') ∧ Uncommented s := by
  have hopens : ∀ d : Char, ['/', d] <+: c :: s ↔ c = '/' ∧ s.head? = some d := by
    intro d
    rw [List.cons_prefix_cons]
    cases s with
    | nil => simp
    | cons e s => simp [eq_comm]
  unfold Uncommented
  rw [List.infix_cons_iff, List.infix_cons_iff, hopens, hopens]
  tauto

theorem uncommented_cons_of_ne {c : Char} {s : List Char} (hc : c ≠ '/') :
    Uncommented (c :: s) ↔ Uncommented s := by
  rw [uncommented_cons]
  constructor
  · exact And.right
  · intro hs
    exact ⟨fun h => absurd h hc, hs⟩

theorem uncommented_append_of_not_mem {a b : List Char} (ha : '/' ∉ a) :
    Uncommented (a ++ b) ↔ Uncommented b := by
  induction a with
  | nil => rfl
  | cons c a ih =>
      have hc : c ≠ '/' := fun h => ha (h ▸ List.mem_cons_self)
      rw [List.cons_append, uncommented_cons_of_ne hc]
      exact ih fun h => ha (List.mem_cons_of_mem c h)

/-- A character other than `/` and `*` keeps two texts apart. -/
theorem uncommented_append_cons {a b : List Char} {c : Char} (hc : c ≠ '/') (hc' : c ≠ '*') :
    Uncommented (a ++ c :: b) ↔ Uncommented a ∧ Uncommented b := by
  induction a with
  | nil => simp [uncommented_cons_of_ne hc, uncommented_nil]
  | cons d a ih =>
      rw [List.cons_append, uncommented_cons, ih, uncommented_cons]
      cases a with
      | nil => simp [hc, hc', uncommented_nil]
      | cons e a =>
          simp only [List.cons_append, List.head?_cons]
          exact and_assoc.symm

theorem stripComments_of_uncommented {s : List Char} (h : Uncommented s) :
    stripComments s = s := by
  fun_induction stripComments s with
  | case1 => rfl
  | case2 cs rest hrest ih => exact absurd ((uncommented_cons.mp h).1 rfl).2 (by simp)
  | case3 cs hrest ih => exact absurd ((uncommented_cons.mp h).1 rfl).2 (by simp)
  | case4 cs ih => exact absurd ((uncommented_cons.mp h).1 rfl).1 (by simp)
  | case5 c cs _ _ ih => rw [ih (uncommented_cons.mp h).2]

theorem afterBlockComment_cons {c : Char} {s : List Char}
    (h : ¬ (c = '*' ∧ s.head? = some '/')) : afterBlockComment (c :: s) = afterBlockComment s := by
  rw [afterBlockComment]
  rintro s' rfl rfl
  exact h ⟨rfl, rfl⟩

theorem stripComments_cons {c : Char} {s : List Char}
    (h : c = '/' → s.head? ≠ some '*' ∧ s.head? ≠ some '/') :
    stripComments (c :: s) = c :: stripComments s := by
  rw [stripComments]
  · rintro s' rfl rfl
    exact (h rfl).1 rfl
  · rintro s' rfl rfl
    exact (h rfl).2 rfl

end TypeGraph.Source
