import Mathlib.Data.List.DropRight
import Mathlib.Data.List.TakeWhile
import TypeGraph.Text.Blank
import TypeGraph.Text.Line
import TypeGraph.Text.Word

/-!
# Character classes and trimming

Blank characters and word characters are disjoint, and every line break is blank.  Both are facts
about tables: a table is finite, so membership in one is checked against the other point by point.
A text is trimmed when it neither starts nor ends with a blank; trimming makes a text trimmed and
leaves a trimmed text alone.
-/

namespace TypeGraph.Text

/-! ## Tables -/

/-- The code points of a list of ranges. -/
def pointsOf (ranges : List (Nat × Nat)) : List Nat :=
  ranges.flatMap fun (first, last) => List.range' first (last + 1 - first)

theorem mem_pointsOf {ranges : List (Nat × Nat)} {n : Nat} (h : rangesCover ranges n = true) :
    n ∈ pointsOf ranges := by
  induction ranges with
  | nil => exact absurd h (by simp [rangesCover])
  | cons range ranges ih =>
      obtain ⟨first, last⟩ := range
      rw [pointsOf, List.flatMap_cons, List.mem_append]
      simp only [rangesCover] at h
      by_cases hlow : n < first
      · rw [if_pos hlow] at h
        exact absurd h (by simp)
      · rw [if_neg hlow] at h
        by_cases hhigh : n ≤ last
        · left
          rw [List.mem_range'_1]
          omega
        · rw [if_neg hhigh] at h
          exact Or.inr (ih h)

theorem isWord_eq_false_of_isBlank {c : Char} (h : isBlank c = true) : isWord c = false := by
  have hall : ∀ n ∈ pointsOf blankRanges.ranges, wordRanges.covers n = false := by decide +kernel
  exact hall _ (mem_pointsOf h)

theorem isBlank_eq_false_of_isWord {c : Char} (h : isWord c = true) : isBlank c = false := by
  cases hc : isBlank c with
  | false => rfl
  | true => exact absurd (isWord_eq_false_of_isBlank hc) (by simp [h])

theorem isBlank_of_isLineBreak {c : Char} (h : isLineBreak c = true) : isBlank c = true := by
  have hall : ∀ n ∈ pointsOf lineBreakRanges.ranges, blankRanges.covers n = true := by decide
  exact hall _ (mem_pointsOf h)

theorem lines_cons_eq_consLine {c : Char} (hc : isLineBreak c = false) (s : List Char) :
    lines (c :: s) = consLine c (lines s) := by
  rw [lines, if_neg (by simp [hc])]
  rintro s' rfl rfl
  exact absurd hc (by decide)

/-- A property of the characters of a text, told by running through the text. -/
theorem forall_mem_of_all {p : Char → Prop} [DecidablePred p] {s : List Char}
    (h : s.all (decide <| p ·) = true) : ∀ c ∈ s, p c :=
  fun c hc => of_decide_eq_true (List.all_eq_true.mp h c hc)

/-! ## Starts and ends -/

/-- The text does not start with a character of the class. -/
def Avoids (p : Char → Bool) (s : List Char) : Prop := ∀ c ∈ s.head?, p c = false

@[simp] theorem avoids_nil (p : Char → Bool) : Avoids p [] := by simp [Avoids]

@[simp] theorem avoids_cons {p : Char → Bool} {c : Char} {s : List Char} :
    Avoids p (c :: s) ↔ p c = false := by simp [Avoids]

theorem avoids_append {p : Char → Bool} {s t : List Char} (hne : s ≠ []) :
    Avoids p (s ++ t) ↔ Avoids p s := by
  cases s with
  | nil => exact absurd rfl hne
  | cons c s => simp

theorem avoids_dropWhile (p : Char → Bool) (s : List Char) : Avoids p (s.dropWhile p) := by
  intro c hc
  have h := List.head?_dropWhile_not p s
  rw [Option.mem_def.mp hc] at h
  simpa using h

theorem dropWhile_append_of_avoids {p : Char → Bool} {run rest : List Char}
    (hrun : ∀ c ∈ run, p c = true) (hrest : Avoids p rest) : (run ++ rest).dropWhile p = rest := by
  rw [List.dropWhile_append_of_pos hrun]
  cases rest with
  | nil => rfl
  | cons c rest => rw [List.dropWhile_cons_of_neg (by simp [avoids_cons.mp hrest])]

theorem takeWhile_append_of_avoids {p : Char → Bool} {run rest : List Char}
    (hrun : ∀ c ∈ run, p c = true) (hrest : Avoids p rest) : (run ++ rest).takeWhile p = run := by
  rw [List.takeWhile_append_of_pos hrun]
  cases rest with
  | nil => rw [List.takeWhile_nil, List.append_nil]
  | cons c rest =>
      rw [List.takeWhile_cons_of_neg (by simp [avoids_cons.mp hrest]), List.append_nil]

/-! ## Trimming -/

/-- The text has no blank at either end. -/
def Trimmed (s : List Char) : Prop :=
  (∀ c ∈ s.head?, isBlank c = false) ∧ ∀ c ∈ s.getLast?, isBlank c = false

theorem trimStart_of_avoids {s : List Char} (h : Avoids isBlank s) : trimStart s = s := by
  have hnone : ∀ c ∈ ([] : List Char), isBlank c = true := by simp
  exact dropWhile_append_of_avoids hnone h

theorem trimStart_append {b s : List Char} (hb : ∀ c ∈ b, isBlank c = true) :
    trimStart (b ++ s) = trimStart s :=
  List.dropWhile_append_of_pos hb

theorem trimEnd_eq_reverse (s : List Char) : trimEnd s = (trimStart s.reverse).reverse := rfl

theorem trimEnd_append {b s : List Char} (hb : ∀ c ∈ b, isBlank c = true) :
    trimEnd (s ++ b) = trimEnd s := by
  rw [trimEnd_eq_reverse, List.reverse_append, trimStart_append, trimEnd_eq_reverse]
  intro c hc
  exact hb c (List.mem_reverse.mp hc)

theorem trimEnd_of_last {s : List Char} (h : ∀ c ∈ s.getLast?, isBlank c = false) :
    trimEnd s = s := by
  rw [trimEnd_eq_reverse, trimStart_of_avoids, List.reverse_reverse]
  intro c hc
  exact h c (by rwa [List.head?_reverse] at hc)

theorem trim_of_trimmed {s : List Char} (h : Trimmed s) : trim s = s := by
  rw [trim, trimStart_of_avoids h.1, trimEnd_of_last h.2]

theorem trim_append {b s : List Char} (hb : ∀ c ∈ b, isBlank c = true) :
    trim (b ++ s) = trim s := by
  rw [trim, trimStart_append hb, trim]

theorem trim_of_avoids {s : List Char} (h : Avoids isBlank s) : trim s = trimEnd s := by
  rw [trim, trimStart_of_avoids h]

theorem trimStart_append_cons {p : Char} (hp : isBlank p = false) (a y : List Char) :
    trimStart (a ++ p :: y) = trimStart a ++ p :: y := by
  unfold trimStart
  rw [List.dropWhile_append]
  cases ha : a.dropWhile isBlank with
  | nil => simp [hp]
  | cons c a => simp

theorem trimEnd_append_cons {p : Char} (hp : isBlank p = false) (y r : List Char) :
    trimEnd (y ++ p :: r) = y ++ p :: trimEnd r := by
  rw [trimEnd_eq_reverse, trimEnd_eq_reverse, List.reverse_append, List.reverse_cons,
    List.append_assoc, List.singleton_append, trimStart_append_cons hp]
  simp

/-- Blanks between two other characters are not trimmed away. -/
theorem mem_trim_of_between {p q x : Char} (hp : isBlank p = false) (hq : isBlank q = false)
    {a b r : List Char} (hx : x ∈ b) : x ∈ trim (a ++ p :: (b ++ q :: r)) := by
  have hsplit : trimStart a ++ p :: (b ++ q :: r) = (trimStart a ++ p :: b) ++ q :: r := by simp
  rw [trim, trimStart_append_cons hp, hsplit, trimEnd_append_cons hq]
  simp [hx]

theorem trimEnd_isPrefix (s : List Char) : trimEnd s <+: s := List.rdropWhile_prefix isBlank s

theorem trim_isInfix (s : List Char) : trim s <:+: s :=
  (trimEnd_isPrefix _).isInfix.trans (List.dropWhile_suffix _).isInfix

theorem mem_of_mem_trim {s : List Char} {c : Char} (h : c ∈ trim s) : c ∈ s :=
  (trim_isInfix s).subset h

theorem trimEnd_cons (c : Char) (s : List Char) :
    trimEnd (c :: s) = if trimEnd s = [] ∧ isBlank c = true then [] else c :: trimEnd s := by
  have hnil : trimEnd s = [] ↔ s.reverse.dropWhile isBlank = [] := List.reverse_eq_nil_iff
  rw [trimEnd_eq_reverse, List.reverse_cons, trimStart, List.dropWhile_append]
  by_cases hs : s.reverse.dropWhile isBlank = []
  · by_cases hc : isBlank c = true
    · simp [hs, hc, hnil]
    · simp [hs, hc, hnil.mpr hs]
  · simp [hs, trimEnd]

theorem trimmed_trimEnd {s : List Char} (h : Avoids isBlank s) : Trimmed (trimEnd s) := by
  constructor
  · intro c hc
    obtain ⟨t, ht⟩ := List.head?_eq_some_iff.mp (Option.mem_def.mp hc)
    obtain ⟨rest, rfl⟩ := ht ▸ trimEnd_isPrefix s
    exact avoids_cons.mp h
  · intro c hc
    rw [trimEnd, List.getLast?_reverse] at hc
    exact avoids_dropWhile isBlank s.reverse c hc

theorem trimmed_trim (s : List Char) : Trimmed (trim s) :=
  trimmed_trimEnd (avoids_dropWhile isBlank s)

theorem trimEnd_ne_nil {s : List Char} (h : Avoids isBlank s) (hne : s ≠ []) :
    trimEnd s ≠ [] := by
  cases s with
  | nil => exact absurd rfl hne
  | cons c s =>
      rw [trimEnd_cons, if_neg]
      · exact List.cons_ne_nil _ _
      · rintro ⟨-, hc⟩
        rw [avoids_cons.mp h] at hc
        exact Bool.noConfusion hc

theorem mem_trimEnd_of_mem_trim {c : Char} {s : List Char} (h : c ∈ trim s) : c ∈ trimEnd s := by
  induction s with
  | nil => exact h
  | cons d s ih =>
      by_cases hd : isBlank d = true
      · have hmem : c ∈ trimEnd s := by
          rw [trim, trimStart, List.dropWhile_cons_of_pos hd] at h
          exact ih h
        rw [trimEnd_cons, if_neg fun hnil => List.ne_nil_of_mem hmem hnil.1]
        exact List.mem_cons_of_mem d hmem
      · rwa [trim, trimStart, List.dropWhile_cons_of_neg hd] at h

end TypeGraph.Text
