import TypeGraph.Proofs.Reading
import TypeGraph.Source.Declaration
import TypeGraph.Source.Receiver

/-!
# The grammars of declarations and receiver methods

The two patterns that are searched for in a source text, as relations between a text, what is read
at its start, and the rest.  Reading succeeds exactly on the texts of the grammar, and gives the
pieces of the grammar.  A search finds the items at whose starts the pattern reads, and passes over
every stretch of text at no place of which it does.
-/

namespace TypeGraph.Source

open TypeGraph.Text

/-! ## Searching -/

section Search

variable {α : Type} {p : Pattern α}

theorem Pattern.findAll_of_read {s rest : List Char} {a : α} (h : p.read? s = some (a, rest)) :
    p.findAll s = a :: p.findAll rest := by
  cases s with
  | nil => exact absurd (p.progress h) (Nat.not_lt_zero _)
  | cons c s =>
      rw [Pattern.findAll]
      split
      · rename_i b rest' hread
        rw [h] at hread
        injection hread with heq
        injection heq with ha hrest
        rw [ha, hrest]
      · rename_i hread
        rw [h] at hread
        exact absurd hread (by simp)

theorem Pattern.findAll_cons_of_none {c : Char} {s : List Char} (h : p.read? (c :: s) = none) :
    p.findAll (c :: s) = p.findAll s := by
  rw [Pattern.findAll]
  split
  · rename_i hread
    rw [h] at hread
    exact absurd hread (by simp)
  · rfl

/-- A search passes over a stretch of text at no place of which the pattern reads. -/
theorem Pattern.findAll_append_of_none {x : List Char} (rest : List Char)
    (h : ∀ t, t ≠ [] → t <:+ x → p.read? (t ++ rest) = none) :
    p.findAll (x ++ rest) = p.findAll rest := by
  induction x with
  | nil => rfl
  | cons c x ih =>
      have hhere : p.read? (c :: x ++ rest) = none := h (c :: x) (by simp) List.suffix_rfl
      rw [List.cons_append] at hhere ⊢
      rw [Pattern.findAll_cons_of_none hhere]
      exact ih fun t hne ht => h t hne (ht.trans (List.suffix_cons c x))

/-- Whatever a search finds was read somewhere in the text. -/
theorem Pattern.exists_read_of_mem_findAll {s : List Char} {a : α} (h : a ∈ p.findAll s) :
    ∃ t rest, p.read? t = some (a, rest) := by
  fun_induction Pattern.findAll p s with
  | case1 => exact absurd h List.not_mem_nil
  | case2 c s b rest hread ih =>
      rcases List.mem_cons.mp h with rfl | hmem
      · exact ⟨c :: s, rest, hread⟩
      · exact ih hmem
  | case3 c s hread ih => exact ih h

end Search

/-! ## Declarations -/

/-- A run of at least one blank. -/
def Gap (b : List Char) : Prop := b ≠ [] ∧ AllBlank b

def Keyword.word : Keyword → List Char
  | .struct => ['s', 't', 'r', 'u', 'c', 't']
  | .interface => ['i', 'n', 't', 'e', 'r', 'f', 'a', 'c', 'e']

/-- The text starts with a declaration. -/
inductive DeclarationAt : List Char → Declaration → List Char → Prop
  | intro {b₁ name b₂ b₃ body : List Char} {keyword : Keyword} (rest : List Char)
      (hb₁ : Gap b₁) (hname : IsName name) (hb₂ : Gap b₂) (hb₃ : AllBlank b₃)
      (hbody : '}' ∉ body) :
      DeclarationAt
        (['t', 'y', 'p', 'e'] ++ (b₁ ++ (name ++ (b₂ ++ (keyword.word ++ (b₃ ++
          '{' :: (body ++ '}' :: rest)))))))
        ⟨String.ofList name, keyword, body⟩ rest

theorem Gap.avoids_word {b t : List Char} (h : Gap b) : Avoids isWord (b ++ t) :=
  h.2.avoids_word h.1

theorem gap_space : Gap [' '] := ⟨by simp, forall_mem_of_all (by decide)⟩

theorem Keyword.avoids_blank (k : Keyword) (t : List Char) : Avoids isBlank (k.word ++ t) := by
  cases k <;> exact avoids_cons.mpr (by decide)

theorem Keyword.read?_eq_some_iff {s rest : List Char} {k : Keyword} :
    Keyword.read? s = some (k, rest) ↔ s = k.word ++ rest := by
  unfold Keyword.read?
  cases hstruct : expect ['s', 't', 'r', 'u', 'c', 't'] s with
  | some r =>
      rw [expect_eq_some_iff] at hstruct
      subst hstruct
      cases k with
      | struct => simp [Keyword.word, eq_comm]
      | interface => simp [Keyword.word]
  | none =>
      cases hinterface : expect ['i', 'n', 't', 'e', 'r', 'f', 'a', 'c', 'e'] s with
      | some r =>
          rw [expect_eq_some_iff] at hinterface
          subst hinterface
          cases k with
          | struct => simp [Keyword.word]
          | interface => simp [Keyword.word, eq_comm]
      | none =>
          constructor
          · intro h
            exact absurd h (by simp)
          · rintro rfl
            cases k with
            | struct => exact absurd (hstruct.symm.trans (expect_eq_some_iff.mpr rfl)) (by simp)
            | interface =>
                exact absurd (hinterface.symm.trans (expect_eq_some_iff.mpr rfl)) (by simp)

/-- **Declarations are read exactly where they stand.** -/
theorem Declaration.read?_eq_some_iff {s rest : List Char} {d : Declaration} :
    Declaration.read? s = some (d, rest) ↔ DeclarationAt s d rest := by
  simp only [Declaration.read?, Option.bind_eq_bind, Option.bind_eq_some_iff, Prod.exists,
    Option.pure_def, Option.some.injEq, Prod.mk.injEq, expect_eq_some_iff, blanks?_eq_some_iff,
    name?_eq_some_iff, Keyword.read?_eq_some_iff, upTo?_eq_some_iff, trimStart_eq_iff]
  constructor
  · rintro ⟨s₁, rfl, s₂, ⟨b₁, hb₁, hblank₁, rfl, -⟩, name, s₃, ⟨hname, rfl, -⟩, s₄,
      ⟨b₂, hb₂, hblank₂, rfl, -⟩, keyword, s₅, rfl, s₆, ⟨b₃, hblank₃, rfl, -⟩, body, s₇,
      ⟨rfl, hbody⟩, rfl, rfl⟩
    exact DeclarationAt.intro s₇ ⟨hb₁, hblank₁⟩ hname ⟨hb₂, hblank₂⟩ hblank₃ hbody
  · rintro ⟨_, hb₁, hname, hb₂, hb₃, hbody⟩
    refine ⟨_, rfl, _, ⟨_, hb₁.1, hb₁.2, rfl, hname.avoids_blank⟩, _, _,
      ⟨hname, rfl, hb₂.avoids_word⟩, _, ⟨_, hb₂.1, hb₂.2, rfl, Keyword.avoids_blank _ _⟩, _, _, rfl,
      _, ⟨_, hb₃, rfl, ?_⟩, _, _, ⟨rfl, hbody⟩, rfl, rfl⟩
    exact avoids_cons.mpr (by decide)

/-! ## Methods with a receiver -/

/-- The text starts with a method definition, up to the opening brace of its body. -/
inductive ReceiverMethodAt : List Char → ReceiverMethod → List Char → Prop
  | intro {b₁ b₂ v b₃ star receiver b₄ b₅ name b₆ params before : List Char} (rest : List Char)
      (hb₁ : Gap b₁) (hb₂ : AllBlank b₂) (hv : IsName v) (hb₃ : Gap b₃)
      (hstar : star = [] ∨ star = ['*']) (hreceiver : IsName receiver) (hb₄ : AllBlank b₄)
      (hb₅ : Gap b₅) (hname : IsName name) (hb₆ : AllBlank b₆)
      (hparams : OneLevel params) (hline : '\n' ∉ params)
      (hbefore : '{' ∉ before) (hresults : '\n' ∉ trim before) :
      ReceiverMethodAt
        (['f', 'u', 'n', 'c'] ++ (b₁ ++ '(' :: (b₂ ++ (v ++ (b₃ ++ (star ++ (receiver ++ (b₄ ++
          ')' :: (b₅ ++ (name ++ (b₆ ++ '(' :: (params ++ ')' :: (before ++ '{' :: rest)))))))))))))
        ⟨String.ofList (star ++ receiver), methodOf name params before⟩ rest

theorem receiverType?_eq_some_iff {s type rest : List Char} :
    receiverType? s = some (type, rest) ↔
      ∃ star receiver, (star = [] ∨ star = ['*']) ∧ IsName receiver ∧ type = star ++ receiver ∧
        s = star ++ (receiver ++ rest) ∧ Avoids isWord rest := by
  unfold receiverType?
  split
  · rename_i cs
    constructor
    · intro h
      obtain ⟨⟨receiver, r⟩, hread, heq⟩ := Option.map_eq_some_iff.mp h
      simp only [Prod.mk.injEq] at heq
      obtain ⟨rfl, rfl⟩ := heq
      obtain ⟨hreceiver, rfl, hrest⟩ := name?_eq_some_iff.mp hread
      exact ⟨['*'], receiver, Or.inr rfl, hreceiver, rfl, rfl, hrest⟩
    · rintro ⟨star, receiver, hstar, hreceiver, htype, hs, hrest⟩
      rcases hstar with rfl | rfl
      · have hnot : '*' ∉ receiver := hreceiver.not_mem (by decide)
        cases receiver with
        | nil => exact absurd rfl hreceiver.1
        | cons c receiver =>
            have hc : '*' = c := (List.cons.inj hs).1
            exact absurd (hc ▸ List.mem_cons_self) hnot
      · have hcs : cs = receiver ++ rest := (List.cons.inj hs).2
        rw [name?_eq_some_iff.mpr ⟨hreceiver, hcs, hrest⟩, htype]
        rfl
  · rename_i hstar
    rw [name?_eq_some_iff]
    constructor
    · rintro ⟨htype, rfl, hrest⟩
      exact ⟨[], type, Or.inl rfl, htype, rfl, rfl, hrest⟩
    · rintro ⟨star, receiver, rfl | rfl, hreceiver, rfl, rfl, hrest⟩
      · exact ⟨hreceiver, rfl, hrest⟩
      · exact absurd rfl (hstar _)

/-- Blanks in front of the results are passed over before the brace is looked for. -/
theorem upTo?_trimStart_eq_some_iff {s before rest : List Char} :
    upTo? '{' (trimStart s) = some (before, rest) ↔
      ∃ b, AllBlank b ∧ s = b ++ (before ++ '{' :: rest) ∧ '{' ∉ before ∧
        Avoids isBlank before := by
  rw [upTo?_eq_some_iff]
  constructor
  · rintro ⟨hs, hbefore⟩
    obtain ⟨b, hb, rfl, havoids⟩ := trimStart_eq_iff.mp hs
    refine ⟨b, hb, rfl, hbefore, ?_⟩
    cases before with
    | nil => exact avoids_nil isBlank
    | cons c before => exact havoids
  · rintro ⟨b, hb, rfl, hbefore, havoids⟩
    refine ⟨trimStart_eq_iff.mpr ⟨b, hb, rfl, ?_⟩, hbefore⟩
    cases before with
    | nil => exact avoids_cons.mpr (by decide)
    | cons c before => exact havoids

theorem methodOf_append {b : List Char} (hb : AllBlank b) (name params before : List Char) :
    methodOf name params (b ++ before) = methodOf name params before := by
  rw [methodOf, trim_append hb, methodOf]

/-- **Method definitions are read exactly where they stand.** -/
theorem ReceiverMethod.read?_eq_some_iff {s rest : List Char} {m : ReceiverMethod} :
    ReceiverMethod.read? s = some (m, rest) ↔ ReceiverMethodAt s m rest := by
  simp only [ReceiverMethod.read?, Option.bind_eq_bind, Option.bind_eq_some_iff, Prod.exists,
    Option.ite_none_left_eq_some, Option.some.injEq, Prod.mk.injEq, expect_eq_some_iff,
    blanks?_eq_some_iff, name?_eq_some_iff, receiverType?_eq_some_iff, parameters?_eq_some_iff,
    upTo?_trimStart_eq_some_iff, trimStart_eq_iff]
  constructor
  · rintro ⟨s₁, rfl, s₂, ⟨b₁, hb₁, hblank₁, rfl, -⟩, s₃, rfl, v, s₄, ⟨hv, ⟨b₂, hb₂, rfl, -⟩, -⟩, s₅,
      ⟨b₃, hb₃, hblank₃, rfl, -⟩, type, s₆, ⟨star, receiver, hstar, hreceiver, rfl, rfl, -⟩, s₇,
      ⟨b₄, hb₄, rfl, -⟩, s₈, ⟨b₅, hb₅, hblank₅, rfl, -⟩, name, s₉, ⟨hname, rfl, -⟩, params, s₁₀,
      ⟨⟨b₆, hb₆, rfl, -⟩, hparams, hline⟩, results, s₁₁, ⟨b, hb, rfl, hresults, havoids⟩, hnl, rfl,
      rfl⟩
    have hbefore : '{' ∉ b ++ results := by
      intro hmem
      rcases List.mem_append.mp hmem with hmem | hmem
      · exact hb.not_mem (by decide) hmem
      · exact hresults hmem
    have htrim : '\n' ∉ trim (b ++ results) := by
      rw [trim_append hb, trim_of_avoids havoids]
      exact hnl
    have h := ReceiverMethodAt.intro s₁₁ ⟨hb₁, hblank₁⟩ hb₂ hv ⟨hb₃, hblank₃⟩ hstar hreceiver hb₄
      ⟨hb₅, hblank₅⟩ hname hb₆ hparams hline hbefore htrim
    rw [methodOf_append hb, List.append_assoc] at h
    exact h
  · rintro ⟨_, hb₁, hb₂, hv, hb₃, hstar, hreceiver, hb₄, hb₅, hname, hb₆, hparams, hline, hbefore,
      hresults⟩
    rename_i star receiver _ _ _ _ _ before
    obtain ⟨b, hb, hsplit, havoids⟩ := trimStart_eq_iff.mp (rfl : trimStart before = _)
    generalize trimStart before = results at hsplit havoids
    subst hsplit
    rw [trim_append hb, trim_of_avoids havoids] at hresults
    rw [methodOf_append hb]
    have hstart : ∀ t, Avoids isBlank (star ++ (receiver ++ t)) := by
      intro t
      rcases hstar with rfl | rfl
      · exact hreceiver.avoids_blank
      · exact avoids_cons.mpr (by decide)
    refine ⟨_, rfl, _, ⟨_, hb₁.1, hb₁.2, rfl, avoids_cons.mpr (by decide)⟩, _, rfl, _, _,
      ⟨hv, ⟨_, hb₂, rfl, hv.avoids_blank⟩, hb₃.avoids_word⟩, _,
      ⟨_, hb₃.1, hb₃.2, rfl, hstart _⟩, _, _, ⟨_, _, hstar, hreceiver, rfl, rfl, ?_⟩, _,
      ⟨_, hb₄, rfl, avoids_cons.mpr (by decide)⟩, _,
      ⟨_, hb₅.1, hb₅.2, rfl, hname.avoids_blank⟩, _, _, ⟨hname, rfl, ?_⟩, _, _,
      ⟨⟨_, hb₆, rfl, avoids_cons.mpr (by decide)⟩, hparams, hline⟩, _, _,
      ⟨b, hb, List.append_assoc _ _ _, fun h => hbefore (List.mem_append_right b h), havoids⟩,
      hresults, rfl, rfl⟩
    · exact hb₄.avoids_word_cons (by decide)
    · exact hb₆.avoids_word_cons (by decide)

end TypeGraph.Source
