import TypeGraph.Proofs.EntityModel
import TypeGraph.Proofs.Comments
import TypeGraph.Proofs.NoMatch

/-!
# The results of a method with a receiver

The head of a method reaches from `func` to the closing parenthesis of its parameters; its results
stand between the head and the next opening brace.  A line with a head, results and a brace is
recorded wherever it stands, with its results if they have no brace of their own, unless the text in
front of it breaks off inside a head: the search would then read on over the end of that line.
Conversely, results are taken from the line of the closing parenthesis as soon as that line goes on
behind it.
-/

namespace TypeGraph.Source

open TypeGraph.Text

/-! ## Searching -/

section Search

variable {α : Type} {p : Pattern α}

/-- Where nothing that is read in front of `y` reaches into it, a search finds in `y` what a search
of `y` alone finds.  By induction on the length, because the search goes on behind what was read. -/
theorem Pattern.exists_findAll_append {x y : List Char}
    (h : ∀ t, t <:+ x → t ≠ [] → p.read? (t ++ y) = none ∨
      ∃ a k, k <:+ t ∧ p.read? (t ++ y) = some (a, k ++ y)) :
    ∃ found, p.findAll (x ++ y) = found ++ p.findAll y := by
  induction hn : x.length using Nat.strong_induction_on generalizing x with
  | _ n ih =>
      subst hn
      cases x with
      | nil => exact ⟨[], rfl⟩
      | cons c x =>
          rcases h (c :: x) List.suffix_rfl (by simp) with hread | ⟨a, k, hk, hread⟩
          · rw [List.cons_append] at hread ⊢
            rw [Pattern.findAll_cons_of_none hread]
            exact ih x.length (by simp) (fun t ht => h t (ht.trans (List.suffix_cons c x))) rfl
          · have hlt : k.length < (c :: x).length := by
              have hless := p.progress hread
              simp only [List.length_append] at hless
              omega
            obtain ⟨found, hfound⟩ := ih k.length hlt (fun t ht => h t (ht.trans hk)) rfl
            exact ⟨a :: found, by rw [Pattern.findAll_of_read hread, hfound]; rfl⟩

/-- What a search finds stands in the text, if reading leaves an end of the text. -/
theorem Pattern.exists_suffix_of_mem_findAll
    (hp : ∀ {s a rest}, p.read? s = some (a, rest) → rest <:+ s) {s : List Char} {a : α}
    (h : a ∈ p.findAll s) : ∃ t rest, t <:+ s ∧ p.read? t = some (a, rest) := by
  fun_induction Pattern.findAll p s with
  | case1 => exact absurd h List.not_mem_nil
  | case2 c s b rest hread ih =>
      rcases List.mem_cons.mp h with rfl | hmem
      · exact ⟨c :: s, rest, List.suffix_rfl, hread⟩
      · obtain ⟨t, rest', ht, hread'⟩ := ih hmem
        exact ⟨t, rest', ht.trans (hp hread), hread'⟩
  | case3 c s hread ih =>
      obtain ⟨t, rest, ht, hread'⟩ := ih h
      exact ⟨t, rest, ht.trans (List.suffix_cons c s), hread'⟩

end Search

/-! ## Heads -/

/-- The text from `func` to the closing parenthesis of a receiver, and the receiver as written. -/
inductive ReceiverText : List Char → List Char → Prop
  | intro {b₁ b₂ v b₃ star receiver b₄ : List Char}
      (hb₁ : Gap b₁) (hb₂ : AllBlank b₂) (hv : IsName v) (hb₃ : Gap b₃)
      (hstar : star = [] ∨ star = ['*']) (hreceiver : IsName receiver) (hb₄ : AllBlank b₄) :
      ReceiverText
        (['f', 'u', 'n', 'c'] ++ (b₁ ++ '(' :: (b₂ ++ (v ++ (b₃ ++ (star ++ (receiver ++ (b₄ ++
          [')']))))))))
        (star ++ receiver)

/-- The text from `func` to the closing parenthesis of the parameters, with its receiver, name and
parameters. -/
inductive HeadText : List Char → List Char → List Char → List Char → Prop
  | intro {r receiver b₅ name b₆ params : List Char} (hreceiver : ReceiverText r receiver)
      (hb₅ : Gap b₅) (hname : IsName name) (hb₆ : AllBlank b₆) (hparams : OneLevel params)
      (hline : '\n' ∉ params) :
      HeadText (r ++ (b₅ ++ (name ++ (b₆ ++ '(' :: (params ++ [')']))))) receiver name params

/-- A method definition is a head, results and an opening brace. -/
theorem receiverMethodAt_iff {s rest : List Char} {m : ReceiverMethod} :
    ReceiverMethodAt s m rest ↔
      ∃ head receiver name params before, HeadText head receiver name params ∧
        s = head ++ (before ++ '{' :: rest) ∧ '{' ∉ before ∧ '\n' ∉ trim before ∧
        m = ⟨String.ofList receiver, methodOf name params before⟩ := by
  constructor
  · rintro ⟨_, hb₁, hb₂, hv, hb₃, hstar, hreceiver, hb₄, hb₅, hname, hb₆, hparams, hline, hbefore,
      hresults⟩
    exact ⟨_, _, _, _, _, ⟨⟨hb₁, hb₂, hv, hb₃, hstar, hreceiver, hb₄⟩, hb₅, hname, hb₆, hparams,
      hline⟩, by simp, hbefore, hresults, rfl⟩
  · rintro ⟨head, receiver, name, params, before,
      ⟨⟨hb₁, hb₂, hv, hb₃, hstar, hreceiver, hb₄⟩, hb₅, hname, hb₆, hparams, hline⟩, rfl, hbefore,
      hresults, rfl⟩
    have h := ReceiverMethodAt.intro rest hb₁ hb₂ hv hb₃ hstar hreceiver hb₄ hb₅ hname hb₆ hparams
      hline hbefore hresults
    simpa using h

theorem ReceiverMethodAt.rest_isSuffix {s rest : List Char} {m : ReceiverMethod}
    (h : ReceiverMethodAt s m rest) : rest <:+ s := by
  obtain ⟨head, -, -, -, before, -, rfl, -⟩ := receiverMethodAt_iff.mp h
  exact ⟨head ++ (before ++ ['{']), by simp⟩

/-- The text starts like a method definition. -/
def StartsHead (s : List Char) : Prop :=
  ∃ gap rest, Gap gap ∧ s = ['f', 'u', 'n', 'c'] ++ (gap ++ '(' :: rest)

theorem HeadText.startsHead {head receiver name params : List Char}
    (h : HeadText head receiver name params) (rest : List Char) : StartsHead (head ++ rest) := by
  obtain ⟨⟨hb₁, -⟩, -⟩ := h
  simp only [List.append_assoc, List.cons_append]
  exact ⟨_, _, hb₁, rfl⟩

theorem StartsHead.avoids_blank {s : List Char} (h : StartsHead s) : Avoids isBlank s := by
  obtain ⟨gap, rest, -, rfl⟩ := h
  exact avoids_cons.mpr (by decide)

/-! ## Runs over the end of a line -/

/-- A run of a class is determined by the text that it starts. -/
theorem run_unique {p : Char → Bool} {a b x y : List Char} (h : a ++ x = b ++ y)
    (ha : ∀ c ∈ a, p c = true) (hb : ∀ c ∈ b, p c = true) (hx : Avoids p x) (hy : Avoids p y) :
    a = b ∧ x = y := by
  constructor
  · rw [← takeWhile_append_of_avoids ha hx, h, takeWhile_append_of_avoids hb hy]
  · rw [← dropWhile_append_of_avoids ha hx, h, dropWhile_append_of_avoids hb hy]

theorem AllBlank.append_newline {w b : List Char} (hw : AllBlank w) (hb : AllBlank b) :
    AllBlank (w ++ '\n' :: b) :=
  List.forall_mem_append.mpr ⟨hw, List.forall_mem_cons.mpr ⟨by decide, hb⟩⟩

theorem trim_append_blank {s b : List Char} (hb : AllBlank b) : trim (s ++ b) = trim s := by
  unfold trim trimStart
  rw [List.dropWhile_append]
  split
  · rename_i hs
    rw [List.isEmpty_iff.mp hs, List.dropWhile_eq_nil_iff.mpr hb]
  · exact trimEnd_append hb

theorem exists_of_not_allBlank {s : List Char} (h : ¬ AllBlank s) : ∃ c ∈ s, isBlank c = false := by
  simpa [AllBlank] using h

/-- Trimming keeps a line feed with text on both sides. -/
theorem newline_mem_trim {x y : List Char} (hx : ¬ AllBlank x) (hy : ¬ AllBlank y) :
    '\n' ∈ trim (x ++ '\n' :: y) := by
  obtain ⟨p, hp, hpblank⟩ := exists_of_not_allBlank hx
  obtain ⟨q, hq, hqblank⟩ := exists_of_not_allBlank hy
  obtain ⟨x₁, x₂, rfl⟩ := List.append_of_mem hp
  obtain ⟨y₁, y₂, rfl⟩ := List.append_of_mem hq
  have hbetween : '\n' ∈ trim (x₁ ++ p :: ((x₂ ++ '\n' :: y₁) ++ q :: y₂)) :=
    mem_trim_of_between hpblank hqblank (by simp)
  simpa using hbetween

section LineEnd

variable {u b next : List Char}

/-- A piece of a text that does not hold `c` ends in front of any `c` of the text. -/
theorem skip_piece {x y z : List Char} {c : Char} (h : x ++ y = u ++ c :: z) (hc : c ∉ x) :
    ∃ u', u = x ++ u' ∧ y = u' ++ c :: z := by
  rcases List.append_eq_append_iff.mp h with ⟨k, hu, hy⟩ | ⟨k, hx, hz⟩
  · exact ⟨k, hu, hy⟩
  · cases k with
    | nil => exact ⟨[], by simpa using hx.symm, by simpa using hz.symm⟩
    | cons d k =>
        injection hz with hcd
        exact absurd (by rw [hx, hcd]; simp) hc

/-- A run of blanks in front of a line that starts with `next`: it is all of the text in front, or
the line feed comes later. -/
theorem skip_blanks {g z : List Char} (h : g ++ z = u ++ '\n' :: (b ++ next)) (hg : AllBlank g)
    (hb : AllBlank b) (hz : Avoids isBlank z) (hnext : Avoids isBlank next) :
    (AllBlank u ∧ z = next) ∨ ∃ u', u = g ++ u' ∧ z = u' ++ '\n' :: (b ++ next) := by
  by_cases hu : AllBlank u
  · left
    have hsplit : g ++ z = (u ++ '\n' :: b) ++ next := by rw [h]; simp
    exact ⟨hu, (run_unique hsplit hg (hu.append_newline hb) hz hnext).2⟩
  · right
    rcases List.append_eq_append_iff.mp h with ⟨k, hk, hz'⟩ | ⟨k, hk, -⟩
    · exact ⟨k, hk, hz'⟩
    · exact absurd (fun c hc => hg c (by rw [hk]; exact List.mem_append_left k hc)) hu

end LineEnd

/-! ## Heads over the end of a line -/

/-- A text that starts a method definition and also starts with a name goes on with a parenthesis
behind that name. -/
theorem StartsHead.eq_paren {v g x : List Char} (h : StartsHead (v ++ (g ++ x))) (hv : IsName v)
    (hg : AllBlank g) (hword : Avoids isWord (g ++ x)) (hx : Avoids isBlank x) :
    ∃ rest, x = '(' :: rest := by
  obtain ⟨gap, rest, hgap, heq⟩ := h
  have hfunc : ∀ c ∈ ['f', 'u', 'n', 'c'], isWord c = true := forall_mem_of_all (by decide)
  obtain ⟨-, hblanks⟩ := run_unique heq hv.2 hfunc hword hgap.avoids_word
  have hparen : Avoids isBlank ('(' :: rest) := avoids_cons.mpr (by decide)
  exact ⟨rest, (run_unique hblanks hg hgap.2 hx hparen).2⟩

theorem StartsHead.eq_f {c : Char} {s : List Char} (h : StartsHead (c :: s)) : c = 'f' := by
  obtain ⟨gap, rest, -, heq⟩ := h
  injection heq

section LineEnd

variable {u b next : List Char}

/-- A type in a receiver starts with a star or a word character. -/
theorem exists_cons_of_type {star receiver : List Char} (hstar : star = [] ∨ star = ['*'])
    (hreceiver : IsName receiver) (rest : List Char) :
    ∃ c t, star ++ (receiver ++ rest) = c :: t ∧ isBlank c = false ∧ c ≠ '(' := by
  rcases hstar with rfl | rfl
  · cases receiver with
    | nil => exact absurd rfl hreceiver.1
    | cons c receiver =>
        have hc : isWord c = true := hreceiver.2 c List.mem_cons_self
        refine ⟨c, receiver ++ rest, rfl, isBlank_eq_false_of_isWord hc, ?_⟩
        rintro rfl
        exact absurd hc (by decide)
  · exact ⟨'*', receiver ++ rest, rfl, by decide, by decide⟩

/-- A receiver never breaks off in front of a line that starts a method definition: its variable or
its type would be `func`, and a parenthesis would follow where none can. -/
theorem ReceiverText.cut {r receiver z : List Char} (h : ReceiverText r receiver)
    (hs : r ++ z = u ++ '\n' :: (b ++ next)) (hb : AllBlank b) (hnext : StartsHead next) :
    ∃ u', u = r ++ u' ∧ z = u' ++ '\n' :: (b ++ next) := by
  obtain ⟨hb₁, hb₂, hv, hb₃, hstar, hreceiver, hb₄⟩ := h
  rename_i b₁ b₂ v b₃ star receiver b₄
  have hword : isWord '\n' = false := by decide
  obtain ⟨c, t, htype, hc⟩ := exists_cons_of_type hstar hreceiver (b₄ ++ ')' :: z)
  have hstart : Avoids isBlank (star ++ (receiver ++ (b₄ ++ ')' :: z))) := by
    rw [htype]
    exact avoids_cons.mpr hc.1
  simp only [List.append_assoc, List.cons_append, List.nil_append] at hs
  obtain ⟨u₁, rfl, e₁⟩ := skip_piece (x := ['f', 'u', 'n', 'c']) hs (by decide)
  rcases skip_blanks e₁ hb₁.2 hb (avoids_cons.mpr (by decide)) hnext.avoids_blank with
    ⟨-, rfl⟩ | ⟨u₂, rfl, e₂⟩
  · exact absurd hnext.eq_f (by decide)
  obtain ⟨u₃, rfl, e₃⟩ := skip_piece (x := ['(']) e₂ (by decide)
  rcases skip_blanks e₃ hb₂ hb hv.avoids_blank hnext.avoids_blank with ⟨-, rfl⟩ | ⟨u₄, rfl, e₄⟩
  · obtain ⟨rest, hrest⟩ := hnext.eq_paren hv hb₃.2 hb₃.avoids_word hstart
    rw [htype] at hrest
    injection hrest with hparen
    exact absurd hparen hc.2
  obtain ⟨u₅, rfl, e₅⟩ := skip_piece e₄ (hv.not_mem hword)
  rcases skip_blanks e₅ hb₃.2 hb hstart hnext.avoids_blank with ⟨-, rfl⟩ | ⟨u₆, rfl, e₆⟩
  · rcases hstar with rfl | rfl
    · have hclose : Avoids isBlank (')' :: z) := avoids_cons.mpr (by decide)
      obtain ⟨rest, hrest⟩ := StartsHead.eq_paren (v := receiver) hnext hreceiver hb₄
        (hb₄.avoids_word_cons (by decide)) hclose
      injection hrest with hparen
      exact absurd hparen (by decide)
    · exact absurd hnext.eq_f (by decide)
  have hstar' : '\n' ∉ star := by
    rcases hstar with rfl | rfl <;> decide
  obtain ⟨u₇, rfl, e₇⟩ := skip_piece e₆ hstar'
  obtain ⟨u₈, rfl, e₈⟩ := skip_piece e₇ (hreceiver.not_mem hword)
  rcases skip_blanks e₈ hb₄ hb (avoids_cons.mpr (by decide)) hnext.avoids_blank with
    ⟨-, rfl⟩ | ⟨u₉, rfl, e₉⟩
  · exact absurd hnext.eq_f (by decide)
  obtain ⟨u', rfl, hz⟩ := skip_piece (x := [')']) e₉ (by decide)
  exact ⟨u', by simp, hz⟩

/-- A head breaks off in front of such a line only behind its receiver, where `func` could be the
name of the method. -/
theorem HeadText.cut {head receiver name params z : List Char}
    (h : HeadText head receiver name params) (hs : head ++ z = u ++ '\n' :: (b ++ next))
    (hb : AllBlank b) (hnext : StartsHead next) :
    (∃ r w, ReceiverText r receiver ∧ AllBlank w ∧ u = r ++ w) ∨
      ∃ u', u = head ++ u' ∧ z = u' ++ '\n' :: (b ++ next) := by
  obtain ⟨hreceiver, hb₅, hname, hb₆, -, hline⟩ := h
  simp only [List.append_assoc, List.cons_append, List.nil_append] at hs
  obtain ⟨u₁, rfl, e₁⟩ := hreceiver.cut hs hb hnext
  rcases skip_blanks e₁ hb₅.2 hb hname.avoids_blank hnext.avoids_blank with
    ⟨hblank, -⟩ | ⟨u₂, rfl, e₂⟩
  · exact Or.inl ⟨_, u₁, hreceiver, hblank, rfl⟩
  obtain ⟨u₃, rfl, e₃⟩ := skip_piece e₂ (hname.not_mem (by decide))
  rcases skip_blanks e₃ hb₆ hb (avoids_cons.mpr (by decide)) hnext.avoids_blank with
    ⟨-, rfl⟩ | ⟨u₄, rfl, e₄⟩
  · exact absurd hnext.eq_f (by decide)
  obtain ⟨u₅, rfl, e₅⟩ := skip_piece (x := ['(']) e₄ (by decide)
  obtain ⟨u₆, rfl, e₆⟩ := skip_piece e₅ hline
  obtain ⟨u', rfl, hz⟩ := skip_piece (x := [')']) e₆ (by decide)
  exact Or.inr ⟨u', by simp, hz⟩

end LineEnd

/-- The text ends in a head, or in the receiver of one, and blanks. -/
def LeavesOpen (s : List Char) : Prop :=
  ∃ front h w, s = front ++ (h ++ w) ∧ AllBlank w ∧
    ((∃ receiver, ReceiverText h receiver) ∨ ∃ receiver name params,
      HeadText h receiver name params)

theorem LeavesOpen.append {u b : List Char} (front : List Char) (h : LeavesOpen u)
    (hb : AllBlank b) : LeavesOpen (front ++ (u ++ '\n' :: b)) := by
  obtain ⟨front', h, w, rfl, hw, hopen⟩ := h
  exact ⟨front ++ front', h, w ++ '\n' :: b, by simp, hw.append_newline hb, hopen⟩

theorem LeavesOpen.paren_mem {s : List Char} (h : LeavesOpen s) : ')' ∈ s := by
  obtain ⟨front, h, w, rfl, -, ⟨_, ⟨_⟩⟩ | ⟨_, _, _, ⟨_⟩⟩⟩ := h <;> simp

/-- A definition that starts in front of such a line ends in front of it, unless a head breaks off
there. -/
theorem ReceiverMethodAt.exists_rest {u b next rest : List Char} {m : ReceiverMethod}
    (h : ReceiverMethodAt (u ++ '\n' :: (b ++ next)) m rest) (hb : AllBlank b)
    (hnext : StartsHead next) (hopen : ¬ LeavesOpen u) :
    ∃ k, k <:+ u ∧ rest = k ++ '\n' :: (b ++ next) := by
  obtain ⟨head, receiver, name, params, before, hhead, hs, hbrace, hresults, -⟩ :=
    receiverMethodAt_iff.mp h
  rcases hhead.cut hs.symm hb hnext with ⟨r, w, hr, hw, rfl⟩ | ⟨u', rfl, hbefore⟩
  · exact absurd ⟨[], r, w, rfl, hw, Or.inl ⟨_, hr⟩⟩ hopen
  by_cases hmem : '{' ∈ u'
  · obtain ⟨x, k, rfl, hx⟩ := List.eq_append_cons_of_mem hmem
    rw [List.append_assoc, List.cons_append] at hbefore
    obtain ⟨-, hrest⟩ := cut_unique hbefore hbrace hx
    exact ⟨k, ⟨head ++ (x ++ ['{']), by simp⟩, hrest⟩
  · obtain ⟨k, rfl, hk⟩ := cut_behind hbefore.symm hmem (by decide)
    obtain ⟨gap, tail, -, rfl⟩ := hnext
    obtain ⟨k', rfl, -⟩ := cut_behind hk (hb.not_mem (by decide)) (by decide)
    have hu' : ¬ AllBlank u' := fun hblank =>
      hopen ⟨[], head, u', rfl, hblank, Or.inr ⟨_, _, _, hhead⟩⟩
    have hfunc : ¬ AllBlank (b ++ 'f' :: k') := fun hblank =>
      absurd (hblank 'f' (by simp)) (by decide)
    exact absurd (newline_mem_trim hu' hfunc) hresults

/-! ## A line with a method definition -/

/-- The text ends at the start of a line, or behind the blanks there. -/
def StartsLine (s : List Char) : Prop :=
  AllBlank s ∨ ∃ front b, s = front ++ '\n' :: b ∧ AllBlank b

theorem read?_eq_none_of_blank {t next : List Char} (ht : AllBlank t) (hne : t ≠ []) :
    ReceiverMethod.read? (t ++ next) = none := by
  cases t with
  | nil => exact absurd rfl hne
  | cons c t =>
      refine ReceiverMethod.read?_cons_eq_none ?_ _
      rintro rfl
      exact absurd (ht 'f' List.mem_cons_self) (by decide)

/-- **The search comes by every line that starts a method definition**, unless a head breaks off in
front of it. -/
theorem receiverMethods_append {pre next : List Char} (hpre : StartsLine pre)
    (hopen : ¬ LeavesOpen pre) (hnext : StartsHead next) :
    ∃ found, receiverMethods (pre ++ next) = found ++ receiverMethods next := by
  refine Pattern.exists_findAll_append fun t ht hne => ?_
  have hblank : AllBlank t → ReceiverMethod.read? (t ++ next) = none :=
    fun h => read?_eq_none_of_blank h hne
  rcases hpre with hpre | ⟨front, b, rfl, hb⟩
  · exact Or.inl (hblank fun c hc => hpre c (ht.subset hc))
  rcases suffix_cut_cases ht with ht | ⟨u, ⟨front', rfl⟩, rfl⟩
  · exact Or.inl (hblank fun c hc => hb c (ht.subset hc))
  cases hread : ReceiverMethod.read? (u ++ '\n' :: b ++ next) with
  | none => exact Or.inl hread
  | some found =>
      obtain ⟨m, rest⟩ := found
      have hat := ReceiverMethod.read?_eq_some_iff.mp hread
      rw [List.append_assoc, List.cons_append] at hat
      have hu : ¬ LeavesOpen u := fun h => hopen (by simpa using h.append front' hb)
      obtain ⟨k, ⟨x, rfl⟩, rfl⟩ := hat.exists_rest hb hnext hu
      refine Or.inr ⟨m, k ++ '\n' :: b, ⟨x, by simp⟩, hread.trans ?_⟩
      simp

/-- A line `func (v R) M(P) T {`, from `func` to the brace. -/
structure MethodLine where
  head : List Char
  receiver : List Char
  name : List Char
  params : List Char
  isHead : HeadText head receiver name params
  /-- The blanks in front of the results. -/
  gap : List Char
  gap_blank : AllBlank gap
  results : List Char
  results_trimmed : Trimmed results
  /-- The blanks in front of the brace. -/
  gap' : List Char
  gap'_blank : AllBlank gap'
  oneLine : '\n' ∉ head ++ (gap ++ (results ++ gap'))

namespace MethodLine

variable (l : MethodLine)

def text : List Char := l.head ++ (l.gap ++ (l.results ++ (l.gap' ++ ['{'])))

/-- The type that receives the method. -/
def owner : String := stripPointer (String.ofList l.receiver)

theorem startsHead_text (rest : List Char) : StartsHead (l.text ++ rest) := by
  rw [text, List.append_assoc]
  exact l.isHead.startsHead _

theorem trim_append_results : trim (l.gap ++ (l.results ++ l.gap')) = l.results := by
  rw [trim_append l.gap_blank, trim_append_blank l.gap'_blank, trim_of_trimmed l.results_trimmed]

/-- The line is read up to its first brace. -/
theorem exists_read (rest : List Char) :
    ∃ before tail, ReceiverMethod.read? (l.text ++ rest) =
        some (⟨String.ofList l.receiver, methodOf l.name l.params before⟩, tail) ∧
      ('{' ∉ l.results → trim before = l.results) := by
  have htext : l.text ++ rest = l.head ++ ((l.gap ++ (l.results ++ l.gap')) ++ '{' :: rest) := by
    simp [text]
  have hbrace : '{' ∈ (l.gap ++ (l.results ++ l.gap')) ++ '{' :: rest := by simp
  obtain ⟨before, tail, hcut, hbefore⟩ := List.eq_append_cons_of_mem hbrace
  have hfront : before <+: l.gap ++ (l.results ++ l.gap') :=
    prefix_of_not_mem (hcut ▸ List.prefix_append before ('{' :: tail)) hbefore
  have hline : '\n' ∉ trim before := fun h =>
    l.oneLine (List.mem_append_right l.head (hfront.subset (mem_of_mem_trim h)))
  refine ⟨before, tail, ?_, fun hresults => ?_⟩
  · rw [ReceiverMethod.read?_eq_some_iff, htext, hcut]
    exact receiverMethodAt_iff.mpr ⟨_, _, _, _, _, l.isHead, rfl, hbefore, hline, rfl⟩
  · have hnone : '{' ∉ l.gap ++ (l.results ++ l.gap') := by
      simp [l.gap_blank.not_mem (c := '{') (by decide), hresults,
        l.gap'_blank.not_mem (c := '{') (by decide)]
    rw [← (cut_unique hcut hnone hbefore).1, l.trim_append_results]

end MethodLine

/-- Where the line goes on behind the parameters, the results are what it goes on with. -/
theorem trim_eq_trim_takeWhile {before : List Char} (hresults : '\n' ∉ trim before)
    (hline : ¬ ∃ b later, AllBlank b ∧ before = b ++ '\n' :: later) :
    trim before = trim (before.takeWhile (· ≠ '\n')) := by
  by_cases hmem : '\n' ∈ before
  · obtain ⟨x, y, rfl, hx⟩ := List.eq_append_cons_of_mem hmem
    have htake : (x ++ '\n' :: y).takeWhile (· ≠ '\n') = x := by
      rw [List.takeWhile_append_of_pos]
      · simp
      · intro c hc
        simpa using fun h : c = '\n' => hx (h ▸ hc)
    have hy : AllBlank y := by
      by_contra hy
      exact hresults (newline_mem_trim (fun hblank => hline ⟨x, y, hblank, rfl⟩) hy)
    have hnewline : AllBlank ('\n' :: y) := List.forall_mem_cons.mpr ⟨by decide, hy⟩
    rw [htake, trim_append_blank hnewline]
  · rw [List.takeWhile_eq_self_iff.mpr]
    intro c hc
    simpa using fun h : c = '\n' => hmem (h ▸ hc)

end TypeGraph.Source

namespace TypeGraph

open TypeGraph.Source TypeGraph.Text

/-- A method with a receiver is recorded under the type that receives it. -/
theorem Graph.exists_entity_of_receiverMethod {source : String} {m : ReceiverMethod}
    (h : m ∈ receiverMethods (stripComments source.toList)) :
    ∃ e ∈ (Graph.ofSource source).entities,
      e.name = stripPointer m.receiver ∧ m.method ∈ e.methods := by
  have hreceived : m.received ∈ (Inventory.ofSource source).received := List.mem_map_of_mem h
  have hname : stripPointer m.receiver ∈ (Inventory.ofSource source).names :=
    List.mem_eraseDups.mpr (List.mem_append_right _ (List.mem_map_of_mem hreceived))
  rw [Graph.entities_ofSource]
  refine ⟨_, List.mem_map_of_mem hname, rfl, List.mem_append_right _ ?_⟩
  exact List.mem_map.mpr ⟨m.received, by simpa [ReceiverMethod.received] using hreceived, rfl⟩

/-- **The results of a method stand on the line of its head.**  A line `func (v R) M(P) T {` is
recorded under `R`, and with the results `T` if no brace is in them, wherever no head breaks off in
front of the line.  What is recorded as results of a method never spans lines, and where the line
goes on behind the parameters, it is what the line goes on with. -/
theorem Graph.returns_stand_on_line (source : String) :
    (Uncommented source.toList → ∀ (pre : List Char) (l : MethodLine) (rest : List Char),
      source.toList = pre ++ (l.text ++ rest) → StartsLine pre → ¬ LeavesOpen pre →
      ∃ e ∈ (Graph.ofSource source).entities, e.name = l.owner ∧ ∃ m ∈ e.methods,
        m.name = String.ofList l.name ∧ m.params = String.ofList (trim l.params) ∧
        ('{' ∉ l.results → m.returns = String.ofList l.results)) ∧
    ∀ m ∈ receiverMethods (stripComments source.toList),
      ∃ pre head receiver name params before rest,
        stripComments source.toList = pre ++ (head ++ (before ++ '{' :: rest)) ∧
        HeadText head receiver name params ∧ '{' ∉ before ∧
        m = ⟨String.ofList receiver, methodOf name params before⟩ ∧
        '\n' ∉ m.method.returns.toList ∧
        ((¬ ∃ b later, AllBlank b ∧ before = b ++ '\n' :: later) →
          m.method.returns = String.ofList (trim (before.takeWhile (· ≠ '\n')))) := by
  constructor
  · intro hplain pre l rest hsource hpre hopen
    obtain ⟨before, tail, hread, hresults⟩ := l.exists_read rest
    obtain ⟨found, hfound⟩ := receiverMethods_append hpre hopen (l.startsHead_text rest)
    have hmem : (⟨String.ofList l.receiver, methodOf l.name l.params before⟩ : ReceiverMethod) ∈
        receiverMethods (stripComments source.toList) := by
      rw [stripComments_of_uncommented hplain, hsource, hfound, receiverMethods,
        Pattern.findAll_of_read hread]
      exact List.mem_append_right found List.mem_cons_self
    obtain ⟨e, he, hname, hmethod⟩ := Graph.exists_entity_of_receiverMethod hmem
    refine ⟨e, he, hname, _, hmethod, rfl, rfl, fun hbrace => ?_⟩
    exact congrArg String.ofList (hresults hbrace)
  · intro m hm
    obtain ⟨t, rest, ⟨pre, hpre⟩, hread⟩ := Pattern.exists_suffix_of_mem_findAll
      (fun h => (ReceiverMethod.read?_eq_some_iff.mp h).rest_isSuffix) hm
    obtain ⟨head, receiver, name, params, before, hhead, rfl, hbrace, hresults, rfl⟩ :=
      receiverMethodAt_iff.mp (ReceiverMethod.read?_eq_some_iff.mp hread)
    refine ⟨pre, head, receiver, name, params, before, rest, hpre.symm, hhead, hbrace, rfl, ?_, ?_⟩
    · simpa [methodOf] using hresults
    · intro hline
      exact congrArg String.ofList (trim_eq_trim_takeWhile hresults hline)

/-- A method with a function among its parameters and two results. -/
def MethodLine.boxGet : MethodLine where
  head := ['f', 'u', 'n', 'c'] ++ ([' '] ++ '(' :: ([] ++ (['b'] ++ ([' '] ++ (['*'] ++
    (['B', 'o', 'x'] ++ ([] ++ [')']))))))) ++ ([' '] ++ (['G', 'e', 't'] ++ ([] ++
    '(' :: ("f func(int) error".toList ++ [')']))))
  receiver := ['*'] ++ ['B', 'o', 'x']
  name := ['G', 'e', 't']
  params := "f func(int) error".toList
  isHead := by
    have hparams : parameters? "(f func(int) error)".toList =
        some ("f func(int) error".toList, []) := by decide +kernel
    obtain ⟨-, hlevel, hline⟩ := parameters?_eq_some_iff.mp hparams
    have hb : IsName ['b'] := ⟨by simp, forall_mem_of_all (by decide)⟩
    have hbox : IsName ['B', 'o', 'x'] := ⟨by simp, forall_mem_of_all (by decide)⟩
    have hget : IsName ['G', 'e', 't'] := ⟨by simp, forall_mem_of_all (by decide)⟩
    have hnone : AllBlank [] := forall_mem_of_all (by decide)
    exact ⟨⟨gap_space, hnone, hb, gap_space, Or.inr rfl, hbox, hnone⟩, gap_space, hget, hnone,
      hlevel, hline⟩
  gap := [' ']
  gap_blank := gap_space.2
  results := '(' :: ("int, error".toList ++ [')'])
  results_trimmed := by
    have hopen : isBlank '(' = false := by decide
    have hclose : isBlank ')' = false := by decide
    exact ⟨by simpa using hopen, by simpa [List.getLast?_cons] using hclose⟩
  gap' := [' ']
  gap'_blank := gap_space.2
  oneLine := by decide +kernel

theorem Graph.returns_stand_on_line_boxGet :
    let pre := "type Box struct \x7b\n\x7d\n"
    let source := pre ++ "func (b *Box) Get(f func(int) error) (int, error) \x7b\n\x7d\n"
    Uncommented source.toList ∧
      source.toList = pre.toList ++ (MethodLine.boxGet.text ++ "\n\x7d\n".toList) ∧
      StartsLine pre.toList ∧ ¬ LeavesOpen pre.toList ∧
      ∃ e ∈ (Graph.ofSource source).entities, e.name = "Box" ∧ ∃ m ∈ e.methods,
        m.name = "Get" ∧ m.params = "f func(int) error" ∧ m.returns = "(int, error)" := by
  intro pre source
  have hplain : Uncommented source.toList := by
    unfold Uncommented
    decide +kernel
  have hsource : source.toList = pre.toList ++ (MethodLine.boxGet.text ++ "\n\x7d\n".toList) := by
    decide +kernel
  have hpre : StartsLine pre.toList :=
    Or.inr ⟨"type Box struct \x7b\n\x7d".toList, [], by decide +kernel,
      forall_mem_of_all (by decide)⟩
  have hopen : ¬ LeavesOpen pre.toList := fun h => absurd h.paren_mem (by decide +kernel)
  obtain ⟨e, he, hname, m, hm, hmname, hparams, hreturns⟩ :=
    (Graph.returns_stand_on_line source).1 hplain pre.toList MethodLine.boxGet _ hsource hpre hopen
  have howner : MethodLine.boxGet.owner = "Box" := by decide +kernel
  have htrim : trim MethodLine.boxGet.params = "f func(int) error".toList := by decide +kernel
  refine ⟨hplain, hsource, hpre, hopen, e, he, hname.trans howner, m, hm, hmname, ?_, ?_⟩
  · rw [hparams, htrim, String.ofList_toList]
  · exact hreturns (by decide +kernel)

/-- Results are cut at a brace of their own; a head that breaks off takes the next line for its
results, also where that line starts another method; and a head whose parameters nest their
parentheses more than once is no head. -/
theorem Graph.returns_not_results :
    (Graph.ofSource "func (b Box) Get() interface\x7b\x7d \x7b\n\x7d\n").entities =
      [{ name := "Box", methods := [⟨"Get", "", "interface"⟩] }] ∧
    (Graph.ofSource "func (b Box) Get()\nfunc (b Box) Put() int \x7b\n\x7d\n").entities =
      [{ name := "Box", methods := [⟨"Get", "", "func (b Box) Put() int"⟩] }] ∧
    (Graph.ofSource "func (b Box) Do(f func(g func(int)) int) int \x7b\n\x7d\n").entities = [] :=
  ⟨by decide +kernel, by decide +kernel, by decide +kernel⟩

end TypeGraph
