import TypeGraph.Proofs.Trimming
import TypeGraph.Source.Lexeme

/-!
# What the lexical readers accept

Each reader of `Source.Lexeme` is characterised by an equivalence: it gives a piece and a rest
exactly when the text is the piece followed by the rest, the piece is of the right class, and the
rest does not go on with a character of that class.  Whatever is proved about a larger reader goes
through these equivalences and does not open the readers again.
-/

namespace TypeGraph.Source

open TypeGraph.Text

/-- A name: a non-empty run of word characters. -/
def IsName (s : List Char) : Prop := s ≠ [] ∧ ∀ c ∈ s, isWord c = true

def AllBlank (s : List Char) : Prop := ∀ c ∈ s, isBlank c = true

/-- Parentheses match and stand at most one inside another: in front of every place there are as
many opening as closing ones, or one more, and at the end as many. -/
def OneLevel (s : List Char) : Prop :=
  (∀ p, p <+: s → p.count ')' ≤ p.count '(' ∧ p.count '(' ≤ p.count ')' + 1) ∧
    s.count '(' = s.count ')'

theorem IsName.avoids_blank {s t : List Char} (h : IsName s) : Avoids isBlank (s ++ t) := by
  obtain ⟨hne, hword⟩ := h
  cases s with
  | nil => exact absurd rfl hne
  | cons c s => exact avoids_cons.mpr (isBlank_eq_false_of_isWord (hword c List.mem_cons_self))

theorem AllBlank.avoids_word {b t : List Char} (h : AllBlank b) (hne : b ≠ []) :
    Avoids isWord (b ++ t) := by
  cases b with
  | nil => exact absurd rfl hne
  | cons c b => exact avoids_cons.mpr (isWord_eq_false_of_isBlank (h c List.mem_cons_self))

theorem AllBlank.avoids_word_cons {b t : List Char} {c : Char} (h : AllBlank b)
    (hc : isWord c = false) : Avoids isWord (b ++ c :: t) := by
  cases b with
  | nil => exact avoids_cons.mpr hc
  | cons d b => exact avoids_cons.mpr (isWord_eq_false_of_isBlank (h d List.mem_cons_self))

/-- A character that is no word character is in no name. -/
theorem IsName.not_mem {s : List Char} (h : IsName s) {c : Char} (hc : isWord c = false) :
    c ∉ s := by
  intro hmem
  rw [h.2 c hmem] at hc
  exact Bool.noConfusion hc

theorem AllBlank.not_mem {b : List Char} (h : AllBlank b) {c : Char} (hc : isBlank c = false) :
    c ∉ b := by
  intro hmem
  rw [h c hmem] at hc
  exact Bool.noConfusion hc

/-! ## Words, blanks and names -/

theorem expect_eq_some_iff {w s rest : List Char} : expect w s = some rest ↔ s = w ++ rest := by
  fun_induction expect w s with
  | case1 s => simp
  | case2 => simp
  | case3 w ws s ih => simp [ih]
  | case4 w ws c s hne =>
      constructor
      · intro h
        exact absurd h (by simp)
      · intro h
        injection h with hc
        exact absurd hc.symm hne

theorem trimStart_eq_iff {s rest : List Char} :
    trimStart s = rest ↔ ∃ b, AllBlank b ∧ s = b ++ rest ∧ Avoids isBlank rest := by
  constructor
  · rintro rfl
    refine ⟨s.takeWhile isBlank, ?_, ?_, avoids_dropWhile isBlank s⟩
    · intro c hc
      exact List.mem_takeWhile_imp hc
    · exact List.takeWhile_append_dropWhile.symm
  · rintro ⟨b, hb, rfl, hrest⟩
    exact dropWhile_append_of_avoids hb hrest

theorem blanks?_eq_some_iff {s rest : List Char} :
    blanks? s = some rest ↔
      ∃ b, b ≠ [] ∧ AllBlank b ∧ s = b ++ rest ∧ Avoids isBlank rest := by
  cases s with
  | nil =>
      constructor
      · intro h
        exact absurd h (by simp [blanks?])
      · rintro ⟨b, hne, -, h, -⟩
        exact absurd (List.append_eq_nil_iff.mp h.symm).1 hne
  | cons c s =>
      simp only [blanks?, Option.ite_none_right_eq_some, Option.some.injEq]
      constructor
      · rintro ⟨hc, hs⟩
        obtain ⟨b, hb, rfl, hrest⟩ := trimStart_eq_iff.mp hs
        exact ⟨c :: b, by simp, List.forall_mem_cons.mpr ⟨hc, hb⟩, rfl, hrest⟩
      · rintro ⟨b, hne, hb, h, hrest⟩
        cases b with
        | nil => exact absurd rfl hne
        | cons d b =>
            injection h with hcd hs
            subst hcd hs
            exact ⟨hb c List.mem_cons_self, trimStart_eq_iff.mpr
              ⟨b, fun x hx => hb x (List.mem_cons_of_mem c hx), rfl, hrest⟩⟩

theorem name?_eq_some_iff {s name rest : List Char} :
    name? s = some (name, rest) ↔ IsName name ∧ s = name ++ rest ∧ Avoids isWord rest := by
  constructor
  · intro h
    unfold name? at h
    split at h
    · exact absurd h (by simp)
    · rename_i hne
      simp only [Option.some.injEq, Prod.mk.injEq] at h
      obtain ⟨rfl, rfl⟩ := h
      refine ⟨⟨hne, ?_⟩, List.takeWhile_append_dropWhile.symm, avoids_dropWhile isWord s⟩
      intro c hc
      exact List.mem_takeWhile_imp hc
  · rintro ⟨⟨hne, hword⟩, rfl, hrest⟩
    unfold name?
    rw [takeWhile_append_of_avoids hword hrest, dropWhile_append_of_avoids hword hrest]
    cases name with
    | nil => exact absurd rfl hne
    | cons c name => rfl

theorem dropStar_append_of_isName {s t : List Char} (h : IsName s) :
    dropStar (s ++ t) = s ++ t := by
  have hstar : '*' ∉ s := h.not_mem (by decide)
  cases s with
  | nil => exact absurd rfl h.1
  | cons c s =>
      have hc : c ≠ '*' := fun hc => hstar (hc ▸ List.mem_cons_self)
      rw [List.cons_append, dropStar]
      rintro r ⟨⟩
      exact hc rfl

theorem dropStar_of_isName {s : List Char} (h : IsName s) : dropStar s = s := by
  simpa using dropStar_append_of_isName (t := []) h

theorem upTo?_eq_some_iff {stop : Char} {s run rest : List Char} :
    upTo? stop s = some (run, rest) ↔ s = run ++ stop :: rest ∧ stop ∉ run := by
  constructor
  · intro h
    unfold upTo? at h
    split at h
    · exact absurd h (by simp)
    · rename_i c rest' hdrop
      simp only [Option.some.injEq, Prod.mk.injEq] at h
      obtain ⟨rfl, rfl⟩ := h
      have havoids := avoids_dropWhile (· ≠ stop) s
      rw [hdrop, avoids_cons] at havoids
      have hstop : c = stop := by simpa using havoids
      subst hstop
      constructor
      · rw [← hdrop]
        exact List.takeWhile_append_dropWhile.symm
      · intro hmem
        simpa using List.mem_takeWhile_imp hmem
  · rintro ⟨rfl, hrun⟩
    have hclass : ∀ c ∈ run, decide (c ≠ stop) = true := by
      intro c hc
      have hne : c ≠ stop := fun heq => hrun (heq ▸ hc)
      simpa using hne
    have hrest : Avoids (fun c => decide (c ≠ stop)) (stop :: rest) := by simp
    unfold upTo?
    rw [dropWhile_append_of_avoids hclass hrest, takeWhile_append_of_avoids hclass hrest]

/-! ## Parameter lists -/

theorem parameterText_append {nested : Bool} {p : List Char} (rest : List Char)
    (hrun : p.foldlM nestedAfter nested = some false) :
    parameterText nested (p ++ ')' :: rest) = some (p, rest) := by
  induction p generalizing nested with
  | nil =>
      injection hrun with hnested
      subst hnested
      rfl
  | cons c p ih =>
      rw [List.foldlM_cons] at hrun
      obtain ⟨nested', hstep, hrun⟩ := Option.bind_eq_some_iff.mp hrun
      have hgo : ¬ (c = ')' ∧ nested = false) := by
        rintro ⟨rfl, rfl⟩
        exact absurd hstep (by simp [nestedAfter])
      rw [List.cons_append, parameterText, if_neg hgo, hstep]
      simp only [ih hrun, Option.map_some]

theorem run_of_parameterText {nested : Bool} {s p rest : List Char}
    (h : parameterText nested s = some (p, rest)) :
    s = p ++ ')' :: rest ∧ p.foldlM nestedAfter nested = some false := by
  induction s generalizing nested p with
  | nil => exact absurd h (by simp [parameterText])
  | cons c s ih =>
      rw [parameterText] at h
      by_cases hstop : c = ')' ∧ nested = false
      · rw [if_pos hstop] at h
        obtain ⟨rfl, rfl⟩ := hstop
        simp only [Option.some.injEq, Prod.mk.injEq] at h
        obtain ⟨rfl, rfl⟩ := h
        exact ⟨rfl, rfl⟩
      · rw [if_neg hstop] at h
        cases hstep : nestedAfter nested c with
        | none => exact absurd h (by simp [hstep])
        | some nested' =>
            rw [hstep] at h
            obtain ⟨⟨q, r⟩, hq, heq⟩ := Option.map_eq_some_iff.mp h
            simp only [Prod.mk.injEq] at heq
            obtain ⟨rfl, rfl⟩ := heq
            obtain ⟨rfl, hrun⟩ := ih hq
            exact ⟨rfl, by rw [List.foldlM_cons, hstep]; exact hrun⟩

/-- In front of the end of `p` there are as many opening as closing parentheses or one more, where
`nested` stands for one that was open before. -/
def Level (nested : Bool) (p : List Char) : Prop :=
  p.count ')' ≤ p.count '(' + nested.toNat ∧ p.count '(' + nested.toNat ≤ p.count ')' + 1

/-- One character either ends the reading, changes the level by one, or leaves it. -/
theorem nestedAfter_cases (nested : Bool) (c : Char) :
    (c = '\n' ∧ nestedAfter nested c = none) ∨
    (c = '(' ∧ nestedAfter nested c = if nested then none else some true) ∨
    (c = ')' ∧ nestedAfter nested c = if nested then some false else none) ∨
    (c ≠ '(' ∧ c ≠ ')' ∧ nestedAfter nested c = some nested) := by
  unfold nestedAfter
  by_cases hnl : c = '\n'
  · exact Or.inl ⟨hnl, if_pos hnl⟩
  · rw [if_neg hnl]
    by_cases hopen : c = '('
    · exact Or.inr (Or.inl ⟨hopen, if_pos hopen⟩)
    · rw [if_neg hopen]
      by_cases hclose : c = ')'
      · exact Or.inr (Or.inr (Or.inl ⟨hclose, if_pos hclose⟩))
      · exact Or.inr (Or.inr (Or.inr ⟨hopen, hclose, if_neg hclose⟩))

theorem surplus_of_nestedAfter {nested nested' : Bool} {c : Char}
    (h : nestedAfter nested c = some nested') (p : List Char) :
    (c :: p).count '(' + nested.toNat + p.count ')' =
      p.count '(' + nested'.toNat + (c :: p).count ')' := by
  rcases nestedAfter_cases nested c with ⟨-, hc⟩ | ⟨rfl, hc⟩ | ⟨rfl, hc⟩ | ⟨hopen, hclose, hc⟩
  · exact absurd (hc.symm.trans h) (by simp)
  · rw [h] at hc
    cases nested with
    | true => exact absurd hc (by simp)
    | false =>
        obtain rfl : nested' = true := by simpa using hc
        simp
  · rw [h] at hc
    cases nested with
    | false => exact absurd hc (by simp)
    | true =>
        obtain rfl : nested' = false := by simpa using hc
        simp
        omega
  · obtain rfl : nested = nested' := Option.some.inj (hc.symm.trans h)
    simp [hopen, hclose]

theorem eq_newline_or_not_level {nested : Bool} {c : Char} (h : nestedAfter nested c = none) :
    c = '\n' ∨ ¬ Level nested [c] := by
  rcases nestedAfter_cases nested c with ⟨hnl, -⟩ | ⟨rfl, hc⟩ | ⟨rfl, hc⟩ | ⟨-, -, hc⟩
  · exact Or.inl hnl
  · rw [h] at hc
    cases nested with
    | true => exact Or.inr (by simp [Level])
    | false => exact absurd hc (by simp)
  · rw [h] at hc
    cases nested with
    | true => exact absurd hc (by simp)
    | false => exact Or.inr (by simp [Level])
  · exact absurd (h.symm.trans hc) (by simp)

theorem level_nil (nested : Bool) : Level nested [] := by
  cases nested <;> simp [Level]

/-- What a character does to the surplus of open parentheses is the same for every continuation. -/
theorem level_cons_iff {nested nested' : Bool} {c : Char} (h : nestedAfter nested c = some nested')
    (p : List Char) : Level nested (c :: p) ↔ Level nested' p := by
  have hsurplus := surplus_of_nestedAfter h p
  unfold Level
  omega

theorem forall_starts_level_cons_iff {nested nested' : Bool} {c : Char}
    (h : nestedAfter nested c = some nested') (s : List Char) :
    (∀ p, p <+: c :: s → Level nested p) ↔ ∀ p, p <+: s → Level nested' p := by
  constructor
  · intro hall p hp
    exact (level_cons_iff h p).mp (hall (c :: p) (List.cons_prefix_cons.mpr ⟨rfl, hp⟩))
  · intro hall p hp
    rcases List.prefix_cons_iff.mp hp with rfl | ⟨t, rfl, ht⟩
    · exact level_nil nested
    · exact (level_cons_iff h t).mpr (hall t ht)

/-- The state of the reader is the number of open parentheses, kept between zero and one. -/
theorem foldlM_nestedAfter_eq_some_iff {nested last : Bool} {s : List Char} :
    s.foldlM nestedAfter nested = some last ↔
      '\n' ∉ s ∧ (∀ p, p <+: s → Level nested p) ∧
        s.count '(' + nested.toNat = s.count ')' + last.toNat := by
  induction s generalizing nested with
  | nil => cases nested <;> cases last <;> simp [Level]
  | cons c s ih =>
      rw [List.foldlM_cons]
      cases hstep : nestedAfter nested c with
      | none =>
          constructor
          · intro h
            exact absurd h (by simp)
          · rintro ⟨hnl, hlevel, -⟩
            rcases eq_newline_or_not_level hstep with rfl | hbad
            · exact absurd List.mem_cons_self hnl
            · exact absurd (hlevel [c] (by simp)) hbad
      | some nested' =>
          have hne : c ≠ '\n' := by
            rintro rfl
            exact absurd hstep (by simp [nestedAfter])
          have hmem : '\n' ∉ c :: s ↔ '\n' ∉ s := by simp [hne.symm]
          have hcount : (c :: s).count '(' + nested.toNat = (c :: s).count ')' + last.toNat ↔
              s.count '(' + nested'.toNat = s.count ')' + last.toNat := by
            have hsurplus := surplus_of_nestedAfter hstep s
            omega
          rw [hmem, forall_starts_level_cons_iff hstep, hcount]
          exact ih

/-- **Parameter lists.**  What is read has matching parentheses, at most one inside another, and no
line feed; and where such a text stands in front of a parenthesis, it is what is read. -/
theorem parameterText_eq_some_iff {s p rest : List Char} :
    parameterText false s = some (p, rest) ↔
      s = p ++ ')' :: rest ∧ OneLevel p ∧ '\n' ∉ p := by
  have hrun : p.foldlM nestedAfter false = some false ↔ OneLevel p ∧ '\n' ∉ p := by
    rw [foldlM_nestedAfter_eq_some_iff]
    simp only [Level, OneLevel, Bool.toNat_false, Nat.add_zero]
    tauto
  constructor
  · intro h
    obtain ⟨hs, hp⟩ := run_of_parameterText h
    exact ⟨hs, hrun.mp hp⟩
  · rintro ⟨rfl, hp⟩
    exact parameterText_append rest (hrun.mpr hp)

theorem parameters?_eq_some_iff {s p rest : List Char} :
    parameters? s = some (p, rest) ↔
      s = '(' :: (p ++ ')' :: rest) ∧ OneLevel p ∧ '\n' ∉ p := by
  simp only [parameters?, Option.bind_eq_bind, Option.bind_eq_some_iff, expect_eq_some_iff,
    parameterText_eq_some_iff]
  constructor
  · rintro ⟨t, rfl, rfl, hp⟩
    exact ⟨rfl, hp⟩
  · rintro ⟨rfl, hp⟩
    exact ⟨_, rfl, rfl, hp⟩

end TypeGraph.Source
