import Mathlib.Data.List.Pairwise
import Mathlib.Data.List.Sort
import TypeGraph.Graph.Step
import TypeGraph.Proofs.Legible
import TypeGraph.Proofs.ReturnText

/-!
# The segments that a search finds

A search reads a text from left to right.  What it finds is stated here without the search: as
stretches of the text, given by their places, that spell items of a language.  The stretches do not
overlap, every place where an item of the language starts lies in one of them, and each ends as
early as it can.  No text has two such lists, and the search for declarations and the search for
methods with a receiver find the items of theirs.
-/

namespace TypeGraph.Source

open TypeGraph.Text

/-! ## Segments of a text -/

/-- A stretch of a text, from one place up to another, and the item that it spells. -/
structure Segment (α : Type) where
  start : Nat
  stop : Nat
  item : α

/-- The same stretch with `n` characters more in front of it. -/
def Segment.shift {α : Type} (n : Nat) (g : Segment α) : Segment α :=
  { g with start := n + g.start, stop := n + g.stop }

/-- The segments of a text that spell items of a language, from left to right.  An item of the
language starts nowhere outside of them. -/
structure Segmentation {α : Type} (Spells : List Char → α → Prop) (code : List Char)
    (found : List (Segment α)) : Prop where
  inside : ∀ g ∈ found, g.start < g.stop ∧ g.stop ≤ code.length
  ordered : found.Pairwise fun g h => g.stop ≤ h.start
  /-- A segment spells its item and no other. -/
  spelled : ∀ g ∈ found, ∀ a, Spells (code.extract g.start g.stop) a ↔ a = g.item
  /-- Nothing shorter is spelled from where a segment starts. -/
  earliest : ∀ g ∈ found, ∀ stop < g.stop, ∀ a, ¬ Spells (code.extract g.start stop) a
  /-- Whatever is spelled starts in a segment. -/
  gaps : ∀ start stop a, Spells (code.extract start stop) a →
    ∃ g ∈ found, g.start ≤ start ∧ start < g.stop

section Segmentation

variable {α : Type} {Spells : List Char → α → Prop} {code : List Char}
  {found found' : List (Segment α)}

theorem Segmentation.starts_lt (h : Segmentation Spells code found) :
    found.Pairwise fun g k => g.start < k.start := by
  refine h.ordered.imp_of_mem ?_
  intro g k hg _ hle
  exact (h.inside g hg).1.trans_le hle

theorem Segmentation.eq_of_overlap (h : Segmentation Spells code found) {g k : Segment α}
    (hg : g ∈ found) (hk : k ∈ found) (hstart : k.start ≤ g.start) (hstop : g.start < k.stop) :
    k = g := by
  by_contra hne
  have hinside := h.inside g hg
  have hapart : k.stop ≤ g.start ∨ g.stop ≤ k.start := by
    have hsymm : Std.Symm fun g k : Segment α => g.stop ≤ k.start ∨ k.stop ≤ g.start :=
      ⟨fun _ _ => Or.symm⟩
    have hpairs : found.Pairwise fun g k => g.stop ≤ k.start ∨ k.stop ≤ g.start :=
      h.ordered.imp Or.inl
    exact hpairs.forall hk hg hne
  omega

/-- By induction on the place: up to there the two lists have the same segments, and an earlier
segment of one would be one of the other too and overlap there. -/
theorem Segmentation.mem_of_mem (h : Segmentation Spells code found)
    (h' : Segmentation Spells code found') (n : Nat) :
    ∀ g, g.start = n → (g ∈ found ↔ g ∈ found') := by
  induction n using Nat.strong_induction_on generalizing found found' with
  | _ n ih =>
      have hmem : ∀ {l l' : List (Segment α)}, Segmentation Spells code l →
          Segmentation Spells code l' → ∀ g, g.start = n → g ∈ l → g ∈ l' := by
        intro l l' hl hl' g hgn hg
        have hspelled := (hl.spelled g hg g.item).mpr rfl
        obtain ⟨k, hk, hstart, hstop⟩ := hl'.gaps g.start g.stop g.item hspelled
        rcases Nat.lt_or_eq_of_le hstart with hlt | heq
        · have hkl : k ∈ l := (ih k.start (hgn ▸ hlt) hl hl' k rfl).mpr hk
          rw [hl.eq_of_overlap hg hkl hstart hstop] at hk
          exact hk
        · have hspelled' := (hl'.spelled k hk k.item).mpr rfl
          have hle : g.stop ≤ k.stop := by
            by_contra hlt
            exact hl.earliest g hg k.stop (by omega) k.item (heq ▸ hspelled')
          have hge : k.stop ≤ g.stop := by
            by_contra hlt
            exact hl'.earliest k hk g.stop (by omega) g.item (heq ▸ hspelled)
          have hstops : k.stop = g.stop := Nat.le_antisymm hge hle
          have hitem : k.item = g.item :=
            (hl.spelled g hg k.item).mp (by rw [← heq, ← hstops]; exact hspelled')
          have hkg : k = g := by
            cases k
            cases g
            simp_all
          exact hkg ▸ hk
      intro g hg
      exact ⟨hmem h h' g hg, hmem h' h g hg⟩

/-- **A text has one segmentation.** -/
theorem Segmentation.unique (h : Segmentation Spells code found)
    (h' : Segmentation Spells code found') : found' = found := by
  have hirrefl : Std.Irrefl fun g k : Segment α => g.start < k.start :=
    ⟨fun g => Nat.lt_irrefl g.start⟩
  have hantisymm : Std.Antisymm fun g k : Segment α => g.start < k.start :=
    ⟨fun g k hgk hkg => absurd hgk (Nat.lt_asymm hkg)⟩
  exact h'.starts_lt.eq_of_mem_iff h.starts_lt fun g => h'.mem_of_mem h g.start g rfl

end Segmentation

/-! ## Where a pattern reads -/

section Search

variable {α : Type} {p : Pattern α} {found : List (Segment α)}

/-- The places at which a search reads its items. -/
structure Pattern.Located (p : Pattern α) (code : List Char) (found : List (Segment α)) :
    Prop where
  inside : ∀ g ∈ found, g.stop ≤ code.length
  ordered : found.Pairwise fun g h => g.stop ≤ h.start
  read : ∀ g ∈ found, p.read? (code.drop g.start) = some (g.item, code.drop g.stop)
  gaps : ∀ i, p.read? (code.drop i) ≠ none → ∃ g ∈ found, g.start ≤ i ∧ i < g.stop

theorem Pattern.read?_nil (p : Pattern α) : p.read? [] = none := by
  cases hread : p.read? [] with
  | none => rfl
  | some found => exact absurd (p.progress hread) (Nat.not_lt_zero _)

/-- What is located in the front of a text and in the rest is located in the whole. -/
theorem Pattern.Located.append {x rest : List Char} {here : List (Segment α)}
    (hrest : p.Located rest found) (hinside : ∀ g ∈ here, g.stop ≤ x.length)
    (hordered : here.Pairwise fun g h => g.stop ≤ h.start)
    (hread : ∀ g ∈ here,
      p.read? ((x ++ rest).drop g.start) = some (g.item, (x ++ rest).drop g.stop))
    (hgaps : ∀ i < x.length, p.read? ((x ++ rest).drop i) ≠ none →
      ∃ g ∈ here, g.start ≤ i ∧ i < g.stop) :
    p.Located (x ++ rest) (here ++ found.map (Segment.shift x.length)) := by
  have hdrop : ∀ i, (x ++ rest).drop (x.length + i) = rest.drop i := by
    intro i
    simp [List.drop_append]
  refine ⟨?_, ?_, ?_, ?_⟩
  · intro g hg
    rcases List.mem_append.mp hg with hg | hg
    · have hstop := hinside g hg
      simp only [List.length_append]
      omega
    · obtain ⟨k, hk, rfl⟩ := List.mem_map.mp hg
      have hstop := hrest.inside k hk
      simp only [Segment.shift, List.length_append]
      omega
  · refine List.pairwise_append.mpr ⟨hordered, ?_, ?_⟩
    · refine List.pairwise_map.mpr (hrest.ordered.imp ?_)
      intro g k hle
      exact Nat.add_le_add_left hle x.length
    · intro g hg k hk
      obtain ⟨k, -, rfl⟩ := List.mem_map.mp hk
      exact (hinside g hg).trans (Nat.le_add_right _ _)
  · intro g hg
    rcases List.mem_append.mp hg with hg | hg
    · exact hread g hg
    · obtain ⟨k, hk, rfl⟩ := List.mem_map.mp hg
      simp only [Segment.shift, hdrop]
      exact hrest.read k hk
  · intro i hi
    rcases Nat.lt_or_ge i x.length with hlt | hge
    · obtain ⟨g, hg, hplace⟩ := hgaps i hlt hi
      exact ⟨g, List.mem_append_left _ hg, hplace⟩
    · obtain ⟨j, rfl⟩ := Nat.exists_eq_add_of_le hge
      rw [hdrop] at hi
      obtain ⟨g, hg, hstart, hstop⟩ := hrest.gaps j hi
      refine ⟨g.shift x.length, List.mem_append_right _ (List.mem_map_of_mem hg), ?_⟩
      simp only [Segment.shift]
      omega

/-- **A search reads wherever it can outside of what it has read.** -/
theorem Pattern.exists_located
    (hp : ∀ {s a rest}, p.read? s = some (a, rest) → rest <:+ s) (code : List Char) :
    ∃ found, p.Located code found ∧ found.map (·.item) = p.findAll code := by
  fun_induction Pattern.findAll p code with
  | case1 =>
      refine ⟨[], ⟨by simp, List.Pairwise.nil, by simp, ?_⟩, rfl⟩
      intro i hi
      rw [List.drop_nil, p.read?_nil] at hi
      exact absurd rfl hi
  | case2 c s a rest hread ih =>
      obtain ⟨found, hlocated, hitems⟩ := ih
      obtain ⟨x, hx⟩ := hp hread
      have hwhole : p.Located (x ++ rest)
          ([⟨0, x.length, a⟩] ++ found.map (Segment.shift x.length)) := by
        refine hlocated.append ?_ (List.pairwise_singleton _ _) ?_ ?_
        · simp
        · intro g hg
          obtain rfl := List.mem_singleton.mp hg
          rw [List.drop_zero, List.drop_left, hx, hread]
        · intro i hi _
          exact ⟨_, List.mem_singleton_self _, Nat.zero_le i, hi⟩
      rw [hx] at hwhole
      refine ⟨_, hwhole, ?_⟩
      simp [← hitems, Segment.shift]
  | case3 c s hread ih =>
      obtain ⟨found, hlocated, hitems⟩ := ih
      have hwhole : p.Located ([c] ++ s) ([] ++ found.map (Segment.shift 1)) := by
        refine hlocated.append (x := [c]) (by simp) List.Pairwise.nil (by simp) ?_
        intro i hi hsome
        obtain rfl : i = 0 := by simpa using hi
        exact absurd hread hsome
      refine ⟨_, hwhole, ?_⟩
      simp [← hitems, Segment.shift]

/-- Nothing shorter at the start of the text is spelled. -/
def Shortest (Spells : List Char → α → Prop) (x : List Char) : Prop :=
  ∀ y a, y <+: x → Spells y a → y = x

/-- The pattern reads the shortest text of a language that it stands in front of. -/
def Pattern.Reads (p : Pattern α) (Spells : List Char → α → Prop) : Prop :=
  ∀ s a rest, p.read? s = some (a, rest) ↔
    ∃ x, s = x ++ rest ∧ Spells x a ∧ Shortest Spells x

variable {Spells : List Char → α → Prop} {code : List Char}

/-- Where a text of the language stands, a shortest one stands, and is read. -/
theorem Pattern.Reads.read?_ne_none (h : p.Reads Spells) {x s : List Char} {a : α}
    (hx : Spells x a) (hs : x <+: s) : p.read? s ≠ none := by
  induction hn : x.length using Nat.strong_induction_on generalizing x a with
  | _ n ih =>
      subst hn
      by_cases hshortest : Shortest Spells x
      · obtain ⟨rest, rfl⟩ := hs
        rw [(h _ a rest).mpr ⟨x, rfl, hx, hshortest⟩]
        simp
      · simp only [Shortest, not_forall] at hshortest
        obtain ⟨y, b, hyx, hy, hne⟩ := hshortest
        have hlt : y.length < x.length :=
          Nat.lt_of_le_of_ne hyx.length_le fun heq => hne (hyx.eq_of_length heq)
        exact ih y.length hlt hy (hyx.trans hs) rfl

theorem Pattern.Located.segmentation (hlocated : p.Located code found) (h : p.Reads Spells) :
    Segmentation Spells code found := by
  have htext : ∀ g ∈ found, g.start < g.stop ∧ Spells (code.extract g.start g.stop) g.item ∧
      Shortest Spells (code.extract g.start g.stop) ∧
      code.drop g.start = code.extract g.start g.stop ++ code.drop g.stop := by
    intro g hg
    obtain ⟨x, hx, hspelled, hshortest⟩ := (h _ _ _).mp (hlocated.read g hg)
    have hprogress := p.progress (hlocated.read g hg)
    have hinside := hlocated.inside g hg
    have hlength := congrArg List.length hx
    simp only [List.length_append, List.length_drop] at hlength hprogress
    have hextract : code.extract g.start g.stop = x := by
      have hn : g.stop - g.start = x.length := by omega
      rw [List.extract_eq_take_drop, hx, hn, List.take_left]
    rw [hextract]
    exact ⟨by omega, hspelled, hshortest, hx⟩
  refine ⟨?_, hlocated.ordered, ?_, ?_, ?_⟩
  · intro g hg
    exact ⟨(htext g hg).1, hlocated.inside g hg⟩
  · intro g hg a
    obtain ⟨-, hspelled, hshortest, hdrop⟩ := htext g hg
    constructor
    · intro ha
      have hread := (h _ a _).mpr ⟨_, hdrop, ha, hshortest⟩
      rw [hlocated.read g hg] at hread
      injection hread with hread
      injection hread with hitem
      exact hitem.symm
    · rintro rfl
      exact hspelled
  · intro g hg stop hstop a ha
    obtain ⟨hlt, -, hshortest, -⟩ := htext g hg
    have hinside := hlocated.inside g hg
    have hle : stop - g.start ≤ g.stop - g.start := by omega
    have heq := hshortest _ a (List.take_prefix_take_left hle) ha
    have hlength := congrArg List.length heq
    simp only [List.length_take, List.length_drop] at hlength
    omega
  · intro start stop a ha
    exact hlocated.gaps start (h.read?_ne_none ha (List.take_prefix _ _))

theorem Pattern.exists_segmentation (h : p.Reads Spells) (code : List Char) :
    ∃ found, Segmentation Spells code found ∧ found.map (·.item) = p.findAll code := by
  have hsuffix : ∀ {s a rest}, p.read? s = some (a, rest) → rest <:+ s := by
    intro s a rest hread
    obtain ⟨x, rfl, -⟩ := (h s a rest).mp hread
    exact List.suffix_append x rest
  obtain ⟨found, hlocated, hitems⟩ := p.exists_located hsuffix code
  exact ⟨found, hlocated.segmentation h, hitems⟩

/-- Where the language leaves no choice of an end, what is read is shortest by itself. -/
theorem Pattern.reads_of_read?_iff
    (h : ∀ s a rest, p.read? s = some (a, rest) ↔ ∃ x, s = x ++ rest ∧ Spells x a) :
    p.Reads Spells := by
  intro s a rest
  rw [h]
  constructor
  · rintro ⟨x, rfl, hx⟩
    refine ⟨x, rfl, hx, ?_⟩
    rintro y b ⟨k, rfl⟩ hy
    have hlong := (h (y ++ k ++ rest) a rest).mpr ⟨y ++ k, rfl, hx⟩
    have hshort := (h (y ++ k ++ rest) b (k ++ rest)).mpr ⟨y, List.append_assoc y k rest, hy⟩
    rw [hlong] at hshort
    injection hshort with hshort
    injection hshort with _ hrest
    have hk : k = [] := by simpa using hrest.symm
    rw [hk, List.append_nil]
  · rintro ⟨x, hs, hx, -⟩
    exact ⟨x, hs, hx⟩

/-- Reads the same texts and makes something of each item. -/
def Pattern.map {β : Type} (p : Pattern α) (f : α → β) : Pattern β where
  read? s := (p.read? s).map fun (a, rest) => (f a, rest)
  progress := by
    intro s b rest h
    obtain ⟨⟨a, rest'⟩, hread, heq⟩ := Option.map_eq_some_iff.mp h
    injection heq with _ hrest
    exact hrest ▸ p.progress hread

theorem Pattern.findAll_map {β : Type} (p : Pattern α) (f : α → β) (s : List Char) :
    (p.map f).findAll s = (p.findAll s).map f := by
  fun_induction Pattern.findAll p s with
  | case1 => simp [Pattern.findAll]
  | case2 c s a rest hread ih =>
      have hmap : (p.map f).read? (c :: s) = some (f a, rest) := by simp [Pattern.map, hread]
      rw [Pattern.findAll_of_read hmap, ih, List.map_cons]
  | case3 c s hread ih =>
      have hmap : (p.map f).read? (c :: s) = none := by simp [Pattern.map, hread]
      rw [Pattern.findAll_cons_of_none hmap, ih]

end Search

/-! ## Declarations -/

inductive DeclarationText : List Char → Declaration → Prop
  | intro {b₁ name b₂ b₃ body : List Char} {keyword : Keyword}
      (hb₁ : Gap b₁) (hname : IsName name) (hb₂ : Gap b₂) (hb₃ : AllBlank b₃)
      (hbody : '}' ∉ body) :
      DeclarationText
        (['t', 'y', 'p', 'e'] ++ (b₁ ++ (name ++ (b₂ ++ (keyword.word ++ (b₃ ++
          '{' :: (body ++ ['}'])))))))
        ⟨String.ofList name, keyword, body⟩

theorem declarationAt_iff {s rest : List Char} {d : Declaration} :
    DeclarationAt s d rest ↔ ∃ x, s = x ++ rest ∧ DeclarationText x d := by
  constructor
  · rintro ⟨_, hb₁, hname, hb₂, hb₃, hbody⟩
    exact ⟨_, by simp, ⟨hb₁, hname, hb₂, hb₃, hbody⟩⟩
  · rintro ⟨_, rfl, ⟨hb₁, hname, hb₂, hb₃, hbody⟩⟩
    simpa using DeclarationAt.intro rest hb₁ hname hb₂ hb₃ hbody

theorem Declaration.reads_pattern : Declaration.pattern.Reads DeclarationText :=
  Pattern.reads_of_read?_iff fun _ _ _ => Declaration.read?_eq_some_iff.trans declarationAt_iff

/-! ## Methods with a receiver -/

/-- The text of a method definition up to an opening brace, with the type that receives the method
and the method.  Unlike what is read, the results may hold other opening braces. -/
inductive DefinitionText : List Char → String × Method → Prop
  | intro {head receiver name params b₁ results b₂ : List Char}
      (hhead : HeadText head receiver name params) (hb₁ : AllBlank b₁)
      (hresults : '\n' ∉ results) (hb₂ : AllBlank b₂) :
      DefinitionText (head ++ (b₁ ++ (results ++ (b₂ ++ ['{']))))
        (String.ofList (dropStar receiver), methodOf name params results)

/-- Methods under the names of the types that receive them, as a search pattern. -/
def ReceiverMethod.receivedPattern : Pattern (String × Method) :=
  ReceiverMethod.pattern.map ReceiverMethod.received

theorem ReceiverMethod.read?_received_iff {s rest : List Char} {r : String × Method} :
    ReceiverMethod.receivedPattern.read? s = some (r, rest) ↔
      ∃ head receiver name params before, HeadText head receiver name params ∧
        s = head ++ (before ++ '{' :: rest) ∧ '{' ∉ before ∧ '\n' ∉ trim before ∧
        r = (String.ofList (dropStar receiver), methodOf name params before) := by
  have hread : ReceiverMethod.receivedPattern.read? s = some (r, rest) ↔
      ∃ m, ReceiverMethodAt s m rest ∧ m.received = r := by
    simp only [ReceiverMethod.receivedPattern, Pattern.map, ReceiverMethod.pattern,
      Option.map_eq_some_iff, Prod.exists, Prod.mk.injEq, ReceiverMethod.read?_eq_some_iff]
    constructor
    · rintro ⟨m, rest', hat, hr, rfl⟩
      exact ⟨m, hat, hr⟩
    · rintro ⟨m, hat, hr⟩
      exact ⟨m, rest, hat, hr, rfl⟩
  rw [hread]
  simp only [receiverMethodAt_iff]
  constructor
  · rintro ⟨_, ⟨head, receiver, name, params, before, hhead, hs, hbrace, hline, rfl⟩, rfl⟩
    refine ⟨head, receiver, name, params, before, hhead, hs, hbrace, hline, ?_⟩
    simp [ReceiverMethod.received, stripPointer]
  · rintro ⟨head, receiver, name, params, before, hhead, hs, hbrace, hline, rfl⟩
    refine ⟨_, ⟨head, receiver, name, params, before, hhead, hs, hbrace, hline, rfl⟩, ?_⟩
    simp [ReceiverMethod.received, stripPointer]

/-- No results hold an opening brace, since the first one ends them. -/
theorem ReceiverMethod.not_mem_opening_returns {code : List Char} {m : ReceiverMethod}
    (h : m ∈ receiverMethods code) : '{' ∉ m.method.returns.toList := by
  obtain ⟨t, rest, hread⟩ := Pattern.exists_read_of_mem_findAll h
  obtain ⟨_, _, _, _, before, -, -, hbrace, -, rfl⟩ :=
    receiverMethodAt_iff.mp (ReceiverMethod.read?_eq_some_iff.mp hread)
  rw [methodOf, String.toList_ofList]
  exact fun hmem => hbrace (mem_of_mem_trim hmem)

theorem methodOf_between {b₁ b₂ : List Char} (hb₁ : AllBlank b₁) (hb₂ : AllBlank b₂)
    (name params results : List Char) :
    methodOf name params (b₁ ++ (results ++ b₂)) = methodOf name params results := by
  rw [methodOf_append hb₁, methodOf, trim_append_blank hb₂, methodOf]

/-- A method definition is read up to its brace, unless its results hold an earlier one, up to which
another definition reaches. -/
theorem DefinitionText.read?_or_shorter {x : List Char} {r : String × Method}
    (h : DefinitionText x r) (rest : List Char) :
    ReceiverMethod.receivedPattern.read? (x ++ rest) = some (r, rest) ∨
      ∃ y r' k, k ≠ [] ∧ x = y ++ k ∧ DefinitionText y r' ∧
        ReceiverMethod.receivedPattern.read? (x ++ rest) = some (r', k ++ rest) := by
  obtain ⟨hhead, hb₁, hresults, hb₂⟩ := h
  rename_i head receiver name params b₁ results b₂
  have hblank : isBlank '{' = false := by decide
  by_cases hmem : '{' ∈ results
  · right
    obtain ⟨r₁, r₂, rfl, hr₁⟩ := List.eq_append_cons_of_mem hmem
    have hline : '\n' ∉ r₁ := fun h => hresults (List.mem_append_left _ h)
    have hnone : AllBlank [] := by simp [AllBlank]
    refine ⟨_, _, r₂ ++ (b₂ ++ ['{']), by simp, ?_, ⟨hhead, hb₁, hline, hnone⟩, ?_⟩
    · simp
    · refine ReceiverMethod.read?_received_iff.mpr ⟨_, _, _, _, b₁ ++ r₁, hhead, ?_, ?_, ?_, ?_⟩
      · simp
      · simp [hb₁.not_mem hblank, hr₁]
      · rw [trim_append hb₁]
        exact fun h => hline (mem_of_mem_trim h)
      · rw [methodOf_append hb₁]
  · left
    refine ReceiverMethod.read?_received_iff.mpr
      ⟨_, _, _, _, b₁ ++ (results ++ b₂), hhead, ?_, ?_, ?_, ?_⟩
    · simp
    · simp [hb₁.not_mem hblank, hmem, hb₂.not_mem hblank]
    · rw [trim_append hb₁, trim_append_blank hb₂]
      exact fun h => hresults (mem_of_mem_trim h)
    · rw [methodOf_between hb₁ hb₂]

theorem ReceiverMethod.exists_definitionText {s rest : List Char} {r : String × Method}
    (h : ReceiverMethod.receivedPattern.read? s = some (r, rest)) :
    ∃ x, s = x ++ rest ∧ DefinitionText x r := by
  obtain ⟨head, receiver, name, params, before, hhead, rfl, -, hline, rfl⟩ :=
    ReceiverMethod.read?_received_iff.mp h
  obtain ⟨b₁, b₂, hb₁, hb₂, hbefore⟩ := exists_trim before
  refine ⟨head ++ (before ++ ['{']), by simp, ?_⟩
  have htext := DefinitionText.intro hhead hb₁ hline hb₂
  rw [← methodOf_between hb₁ hb₂, ← hbefore] at htext
  have hsplit : before ++ ['{'] = b₁ ++ (trim before ++ (b₂ ++ ['{'])) := by
    conv_lhs => rw [hbefore]
    simp
  rw [hsplit]
  exact htext

/-- **Method definitions are read up to the earliest brace.** -/
theorem ReceiverMethod.reads_receivedPattern :
    ReceiverMethod.receivedPattern.Reads DefinitionText := by
  intro s r rest
  constructor
  · intro hread
    obtain ⟨x, rfl, hx⟩ := ReceiverMethod.exists_definitionText hread
    refine ⟨x, rfl, hx, ?_⟩
    rintro y r' ⟨k, rfl⟩ hy
    rw [List.append_assoc] at hread
    rcases hy.read?_or_shorter (k ++ rest) with hread' | ⟨z, r'', k', hk', -, -, hread'⟩
    · rw [hread] at hread'
      injection hread' with heq
      injection heq with _ hrest
      have hk : k = [] := by simpa using hrest.symm
      rw [hk, List.append_nil]
    · rw [hread] at hread'
      injection hread' with heq
      injection heq with _ hrest
      have hlength := congrArg List.length hrest
      simp only [List.length_append] at hlength
      exact absurd (List.length_eq_zero_iff.mp (by omega)) hk'
  · rintro ⟨x, rfl, hx, hshortest⟩
    rcases hx.read?_or_shorter rest with hread | ⟨y, r', k, hk, rfl, hy, -⟩
    · exact hread
    · have heq := hshortest y r' (List.prefix_append y k) hy
      exact absurd (by simpa using heq) hk

end TypeGraph.Source

namespace TypeGraph

open TypeGraph.Source

/-- **The two searches find exactly their languages.**  A text has one segmentation into
declarations and one into method definitions.  Entering the declarations of a text enters the items
of the first in order, entering its methods the items of the second, and the numbers that are given
back count the segments.  No results of a method hold an opening brace. -/
theorem Graph.apply_segmentation (code : String) :
    (∃ found, Segmentation DeclarationText code.toList found ∧
      (∀ other, Segmentation DeclarationText code.toList other → other = found) ∧
      (∀ g : Graph, g.apply (.declarations code) =
        found.foldl (fun g s => g.addDeclaration s.item) g) ∧
      (Step.declarations code).found = some found.length) ∧
    ∃ found, Segmentation DefinitionText code.toList found ∧
      (∀ other, Segmentation DefinitionText code.toList other → other = found) ∧
      (∀ g : Graph, g.apply (.receivers code) =
        found.foldl (fun g s =>
          (g.ensure s.item.1).modify s.item.1 (·.addMethod s.item.2)) g) ∧
      (Step.receivers code).found = some found.length ∧
      ∀ s ∈ found, '{' ∉ s.item.2.returns.toList := by
  constructor
  · obtain ⟨found, hfound, hitems⟩ := Pattern.exists_segmentation Declaration.reads_pattern
      code.toList
    have hdeclarations : declarations code.toList = found.map (·.item) := hitems.symm
    refine ⟨found, hfound, fun other => hfound.unique, ?_, ?_⟩
    · intro g
      rw [Graph.apply, Graph.addDeclarations, hdeclarations, List.foldl_map]
    · rw [Step.found, hdeclarations, List.length_map]
  · obtain ⟨found, hfound, hitems⟩ := Pattern.exists_segmentation
      ReceiverMethod.reads_receivedPattern code.toList
    have hmethods : (receiverMethods code.toList).map ReceiverMethod.received =
        found.map (·.item) := by
      rw [hitems, ReceiverMethod.receivedPattern, Pattern.findAll_map]
      rfl
    refine ⟨found, hfound, fun other => hfound.unique, ?_, ?_, ?_⟩
    · intro g
      rw [Graph.apply, Graph.addReceivers]
      have hfold := congrArg (List.foldl
        (fun g (r : String × Method) => (g.ensure r.1).modify r.1 (·.addMethod r.2)) g) hmethods
      rw [List.foldl_map, List.foldl_map] at hfold
      exact hfold
    · have hlength := congrArg List.length hmethods
      rw [List.length_map, List.length_map] at hlength
      rw [Step.found, hlength]
    · intro s hs
      have hmem : s.item ∈ (receiverMethods code.toList).map ReceiverMethod.received := by
        rw [hmethods]
        exact List.mem_map_of_mem hs
      obtain ⟨m, hm, heq⟩ := List.mem_map.mp hmem
      rw [← heq]
      exact ReceiverMethod.not_mem_opening_returns hm

end TypeGraph
