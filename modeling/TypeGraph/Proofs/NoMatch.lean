import Mathlib.Data.List.Basic
import TypeGraph.Proofs.Grammar

/-!
# Where the patterns do not read

The two searches look at every place of a text, also inside items and across them.  Most places are
ruled out by the first delimiter behind them: in front of the first brace of a declaration and of
the first parenthesis of a method head there are only word characters and blanks.  A method head may
run over a closing brace only on the line of its parameters or results, so it never reaches over a
brace that ends its line.
-/

namespace TypeGraph.Source

open TypeGraph.Text

/-! ## Cutting a text at a delimiter -/

section Cut

variable {α : Type} {x y b z : List α} {c d : α}

/-- Two ways to cut one text: where `c` is not in front of the cut at `d`, it is behind it. -/
theorem cut_behind (h : x ++ d :: y = b ++ c :: z) (hc : c ∉ x) (hne : c ≠ d) :
    ∃ k, b = x ++ d :: k ∧ y = k ++ c :: z := by
  induction x generalizing b with
  | nil =>
      cases b with
      | nil =>
          injection h with hdc
          exact absurd hdc.symm hne
      | cons e b =>
          injection h with hde hy
          exact ⟨b, by rw [hde]; rfl, hy⟩
  | cons e x ih =>
      cases b with
      | nil =>
          injection h with hec
          exact absurd (hec ▸ List.mem_cons_self) hc
      | cons e' b =>
          injection h with hee hrest
          obtain ⟨k, rfl, hy⟩ := ih hrest fun hmem => hc (List.mem_cons_of_mem e hmem)
          exact ⟨k, by rw [hee]; rfl, hy⟩

/-- The first occurrence of a character is in one place. -/
theorem cut_unique (h : x ++ c :: y = b ++ c :: z) (hx : c ∉ x) (hb : c ∉ b) :
    x = b ∧ y = z := by
  induction x generalizing b with
  | nil =>
      cases b with
      | nil =>
          injection h with _ hyz
          exact ⟨rfl, hyz⟩
      | cons e b =>
          injection h with hce
          exact absurd (hce ▸ List.mem_cons_self) hb
  | cons e x ih =>
      cases b with
      | nil =>
          injection h with hec
          exact absurd (hec ▸ List.mem_cons_self) hx
      | cons e' b =>
          injection h with hee hrest
          obtain ⟨rfl, hyz⟩ := ih hrest (fun hmem => hx (List.mem_cons_of_mem e hmem))
            (fun hmem => hb (List.mem_cons_of_mem e' hmem))
          exact ⟨by rw [hee], hyz⟩

theorem mem_of_cut (h : x ++ d :: y = b ++ c :: z) (hd : d ∉ b) (hne : c ≠ d) : c ∈ x := by
  obtain ⟨k, rfl, -⟩ := cut_behind h.symm hd hne.symm
  exact List.mem_append_right b List.mem_cons_self

/-- A suffix of a cut text starts in front of the delimiter or behind it. -/
theorem suffix_cut_cases {t : List α} (h : t <:+ x ++ c :: y) :
    t <:+ y ∨ ∃ u, u <:+ x ∧ t = u ++ c :: y := by
  induction x with
  | nil =>
      rcases List.suffix_cons_iff.mp h with rfl | h
      · exact Or.inr ⟨[], List.suffix_rfl, rfl⟩
      · exact Or.inl h
  | cons e x ih =>
      rcases List.suffix_cons_iff.mp h with rfl | h
      · exact Or.inr ⟨e :: x, List.suffix_rfl, rfl⟩
      · rcases ih h with h | ⟨u, hu, rfl⟩
        · exact Or.inl h
        · exact Or.inr ⟨u, hu.trans (List.suffix_cons e x), rfl⟩

theorem prefix_of_not_mem {w : List α} (h : w <+: b ++ c :: z) (hc : c ∉ w) : w <+: b := by
  induction w generalizing b with
  | nil => exact List.nil_prefix
  | cons e w ih =>
      cases b with
      | nil =>
          obtain ⟨rfl, -⟩ := List.cons_prefix_cons.mp h
          exact absurd List.mem_cons_self hc
      | cons e' b =>
          obtain ⟨rfl, hw⟩ := List.cons_prefix_cons.mp h
          exact List.cons_prefix_cons.mpr
            ⟨rfl, ih hw fun hmem => hc (List.mem_cons_of_mem e hmem)⟩

end Cut

/-! ## Declarations -/

/-- A word character or a blank. -/
def Loose (c : Char) : Prop := isWord c = true ∨ isBlank c = true

instance : DecidablePred Loose := fun _ => inferInstanceAs (Decidable (_ ∨ _))

theorem IsName.loose {s : List Char} (h : IsName s) : ∀ c ∈ s, Loose c :=
  fun c hc => Or.inl (h.2 c hc)

theorem AllBlank.loose {b : List Char} (h : AllBlank b) : ∀ c ∈ b, Loose c :=
  fun c hc => Or.inr (h c hc)

theorem Keyword.loose (k : Keyword) : ∀ c ∈ k.word, Loose c := by
  cases k <;> exact forall_mem_of_all (by decide)

theorem not_mem_of_loose {s : List Char} (h : ∀ c ∈ s, Loose c) {c : Char} (hc : ¬ Loose c) :
    c ∉ s := fun hmem => hc (h c hmem)

theorem loose_append {a b : List Char} (ha : ∀ c ∈ a, Loose c) (hb : ∀ c ∈ b, Loose c) :
    ∀ c ∈ a ++ b, Loose c := by
  intro c hc
  rcases List.mem_append.mp hc with hc | hc
  · exact ha c hc
  · exact hb c hc

/-- In front of the brace of a declaration stand `type`, a blank, and more word characters and
blanks. -/
theorem DeclarationAt.exists_cut {s rest : List Char} {d : Declaration}
    (h : DeclarationAt s d rest) :
    ∃ c w y, isBlank c = true ∧ w ≠ [] ∧ (∀ x ∈ ['t', 'y', 'p', 'e'] ++ c :: w, Loose x) ∧
      s = (['t', 'y', 'p', 'e'] ++ c :: w) ++ '{' :: y := by
  obtain ⟨_, hb₁, hname, hb₂, hb₃, hbody⟩ := h
  rename_i b₁ name b₂ b₃ body keyword
  cases b₁ with
  | nil => exact absurd rfl hb₁.1
  | cons c b₁ =>
      have htype : ∀ x ∈ ['t', 'y', 'p', 'e'], Loose x := forall_mem_of_all (by decide)
      have hrest := loose_append hname.loose
        (loose_append hb₂.2.loose (loose_append keyword.loose hb₃.loose))
      refine ⟨c, b₁ ++ (name ++ (b₂ ++ (keyword.word ++ b₃))), body ++ '}' :: rest,
        hb₁.2 c List.mem_cons_self, ?_, ?_, by simp⟩
      · simp [hname.1]
      · exact loose_append htype (loose_append hb₁.2.loose hrest)

theorem Declaration.read?_eq_none_iff {s : List Char} :
    Declaration.read? s = none ↔ ∀ d rest, ¬ DeclarationAt s d rest := by
  simp only [Option.eq_none_iff_forall_ne_some, Prod.forall, Ne, Declaration.read?_eq_some_iff]

theorem Declaration.read?_cons_eq_none {c : Char} (hc : c ≠ 't') (s : List Char) :
    Declaration.read? (c :: s) = none := by
  rw [Declaration.read?_eq_none_iff]
  intro d rest h
  obtain ⟨_, w, y, -, -, -, heq⟩ := h.exists_cut
  injection heq with hct
  exact hc hct

/-- A delimiter other than an opening brace shuts a declaration out. -/
theorem Declaration.read?_eq_none_of_delimiter {x : List Char} (hbrace : '{' ∉ x) {c : Char}
    (hc : ¬ Loose c) (hne : c ≠ '{') (rest : List Char) :
    Declaration.read? (x ++ c :: rest) = none := by
  rw [Declaration.read?_eq_none_iff]
  intro d rest' h
  obtain ⟨b, w, y, -, -, hloose, heq⟩ := h.exists_cut
  exact not_mem_of_loose hloose hc (mem_of_cut heq.symm hbrace hne)

/-! ## Methods with a receiver -/

theorem ReceiverMethod.read?_eq_none_iff {s : List Char} :
    ReceiverMethod.read? s = none ↔ ∀ m rest, ¬ ReceiverMethodAt s m rest := by
  simp only [Option.eq_none_iff_forall_ne_some, Prod.forall, Ne, ReceiverMethod.read?_eq_some_iff]

theorem ReceiverMethodAt.func_isPrefix {s rest : List Char} {m : ReceiverMethod}
    (h : ReceiverMethodAt s m rest) : ['f', 'u', 'n', 'c'] <+: s := by
  obtain ⟨_⟩ := h
  exact List.prefix_append _ _

theorem ReceiverMethod.read?_cons_eq_none {c : Char} (hc : c ≠ 'f') (s : List Char) :
    ReceiverMethod.read? (c :: s) = none := by
  rw [ReceiverMethod.read?_eq_none_iff]
  intro m rest h
  exact hc (List.cons_prefix_cons.mp h.func_isPrefix).1.symm

/-- A delimiter other than an opening parenthesis shuts a method head out. -/
theorem ReceiverMethod.read?_eq_none_of_delimiter {x : List Char} (hparen : '(' ∉ x) {c : Char}
    (hc : ¬ Loose c) (hne : c ≠ '(') (rest : List Char) :
    ReceiverMethod.read? (x ++ c :: rest) = none := by
  rw [ReceiverMethod.read?_eq_none_iff]
  rintro m rest' h
  generalize hs : x ++ c :: rest = s at h
  obtain ⟨_, hb₁⟩ := h
  rw [← List.append_assoc] at hs
  have hmem := mem_of_cut hs.symm hparen hne
  have hfunc : ∀ e ∈ ['f', 'u', 'n', 'c'], Loose e := forall_mem_of_all (by decide)
  exact not_mem_of_loose (loose_append hfunc hb₁.2.loose) hc hmem

/-- What stands in front of the parameters of a method head holds no closing brace. -/
theorem ReceiverMethodAt.exists_cut {s rest : List Char} {m : ReceiverMethod}
    (h : ReceiverMethodAt s m rest) :
    ∃ head params before, '}' ∉ head ∧ '\n' ∉ params ∧ '\n' ∉ trim before ∧
      s = head ++ '(' :: (params ++ ')' :: (before ++ '{' :: rest)) := by
  obtain ⟨_, hb₁, hb₂, hv, hb₃, hstar, hreceiver, hb₄, hb₅, hname, hb₆, hparams, hline, hbefore,
    hresults⟩ := h
  rename_i b₁ b₂ v b₃ star receiver b₄ b₅ name b₆ params before
  refine ⟨['f', 'u', 'n', 'c'] ++ (b₁ ++ '(' :: (b₂ ++ (v ++ (b₃ ++ (star ++ (receiver ++ (b₄ ++
    ')' :: (b₅ ++ (name ++ b₆))))))))), params, before, ?_, hline, hresults, by simp⟩
  have hword : isWord '}' = false := by decide
  have hblank : isBlank '}' = false := by decide
  have hstar' : '}' ∉ star := by
    rcases hstar with rfl | rfl <;> decide
  simp [hb₁.2.not_mem hblank, hb₂.not_mem hblank, hv.not_mem hword, hb₃.2.not_mem hblank, hstar',
    hreceiver.not_mem hword, hb₄.not_mem hblank, hb₅.2.not_mem hblank, hname.not_mem hword,
    hb₆.not_mem hblank]

/-- **No method head reaches over a closing brace at the end of its line**, unless the next text
starts with a blank or an opening brace. -/
theorem ReceiverMethod.read?_eq_none_of_closing {m rest : List Char} (hopen : '{' ∉ m)
    (hclose : '}' ∉ m) (hrest : ∀ c ∈ rest.head?, isBlank c = false ∧ c ≠ '{') :
    ReceiverMethod.read? (m ++ '}' :: '\n' :: rest) = none := by
  rw [ReceiverMethod.read?_eq_none_iff]
  intro r tail h
  obtain ⟨head, params, before, hhead, hline, hresults, hs⟩ := h.exists_cut
  obtain ⟨k, rfl, hparams⟩ := cut_behind hs.symm hhead (by decide)
  by_cases hmem : '}' ∈ params
  · obtain ⟨p₁, p₂, rfl, hp₁⟩ := List.eq_append_cons_of_mem hmem
    have hk : '}' ∉ k := fun hk => hclose (by simp [hk])
    rw [List.append_assoc, List.cons_append] at hparams
    obtain ⟨-, hbrace⟩ := cut_unique hparams hp₁ hk
    cases p₂ with
    | nil =>
        injection hbrace with hc
        exact absurd hc (by decide)
    | cons c p₂ =>
        injection hbrace with hc
        exact hline (by simp [hc])
  · obtain ⟨k', rfl, hbefore⟩ := cut_behind hparams hmem (by decide)
    have hk : '{' ∉ k' := fun hk => hopen (by simp [hk])
    obtain ⟨w, rfl, hnewline⟩ := cut_behind hbefore.symm hk (by decide)
    cases w with
    | nil =>
        injection hnewline with hc
        exact absurd hc (by decide)
    | cons c w =>
        injection hnewline with hc hrest'
        cases w with
        | nil => exact (hrest '{' (by rw [hrest']; rfl)).2 rfl
        | cons e w =>
            have he : isBlank e = false := (hrest e (by rw [hrest']; rfl)).1
            refine hresults ?_
            rw [← hc]
            exact mem_trim_of_between (p := '}') (b := ['\n']) (by decide) he (by simp)

end TypeGraph.Source
