import TypeGraph.Proofs.FieldType

/-!
# What a line of a body is

A line of a body is a lone name, a field, a method or nothing.  Which of them it is follows from the
ways in which the line can be split, whatever order they are tried in: the line is a field or a
method exactly if some split of that form exists.  A split into a method is the only one.  There can
be several splits into a field, which differ in the blanks that they give to the type; what is kept
is the text between the name and the tag, without the blanks around it.
-/

namespace TypeGraph.Source

open TypeGraph.Text

/-! ## Lone names -/

/-- A name alone, with or without a star in front. -/
def LoneName (line name : List Char) : Prop :=
  IsName name ∧ (line = name ∨ line = '*' :: name)

theorem dropStar_cases (s : List Char) : s = dropStar s ∨ s = '*' :: dropStar s := by
  unfold dropStar
  split
  · exact Or.inr rfl
  · exact Or.inl rfl

theorem embedding?_eq_some_iff {line : List Char} {name : String} :
    embedding? line = some name ↔ LoneName line name.toList := by
  simp only [embedding?, Option.ite_none_right_eq_some, Option.some.injEq]
  constructor
  · rintro ⟨⟨hne, hall⟩, rfl⟩
    rw [String.toList_ofList]
    exact ⟨⟨hne, List.all_eq_true.mp hall⟩, dropStar_cases line⟩
  · rintro ⟨hname, hline⟩
    have hdrop : dropStar line = name.toList := by
      rcases hline with rfl | rfl
      · exact dropStar_of_isName hname
      · rfl
    rw [hdrop]
    exact ⟨⟨hname.1, List.all_eq_true.mpr hname.2⟩, String.ofList_toList⟩

theorem embedding?_eq_none_iff {line : List Char} :
    embedding? line = none ↔ ¬∃ name, LoneName line name := by
  rw [Option.eq_none_iff_forall_not_mem, not_exists]
  constructor
  · intro hnone name hlone
    refine hnone (String.ofList name) (embedding?_eq_some_iff.mpr ?_)
    rwa [String.toList_ofList]
  · intro hnone name hsome
    exact hnone _ (embedding?_eq_some_iff.mp hsome)

/-! ## Fields -/

/-- A line that can be split into a name, blanks, a text without tag marks, more blanks and a tag,
where the last two may be missing. -/
inductive FieldText : List Char → Prop
  | intro {name gap text space tag : List Char} (hname : IsName name) (hgap : Gap gap)
      (hne : text ≠ []) (hmark : tagMark ∉ text) (hspace : AllBlank space)
      (htag : tag = [] ∨ IsTag tag) :
      FieldText (name ++ (gap ++ (text ++ (space ++ tag))))

theorem IsTag.avoids_blank {tag : List Char} (h : IsTag tag) : Avoids isBlank tag := by
  obtain ⟨inner, rfl⟩ := h
  exact avoids_cons.mpr (by decide)

/-- A field is a line that can be split as one. -/
theorem fieldText_of_field? {line : List Char} {f : Field} (h : field? line = some f) :
    FieldText line := by
  obtain ⟨name, gap, text, type, hname, hgap, -, rfl, htype, -⟩ := field?_eq_some_iff.mp h
  have hnone : AllBlank [] := by simp [AllBlank]
  rcases fieldType?_eq_some_iff.mp htype with ⟨hne, htext, hmark, -⟩ |
    ⟨hne, before, tag, rfl, hbefore, hmark, htag, -⟩ | ⟨hlength, htag, c, hc, -⟩
  · have hsplit := FieldText.intro hname ⟨hne, hgap⟩ htext hmark hnone (Or.inl rfl)
    simpa using hsplit
  · exact FieldText.intro hname ⟨hne, hgap⟩ hbefore hmark hnone (Or.inr htag)
  · obtain ⟨front, rfl⟩ := List.getLast?_eq_some_iff.mp hc
    have hfront : Gap front := by
      refine ⟨?_, fun d hd => hgap d (List.mem_append_left [c] hd)⟩
      rintro rfl
      simp at hlength
    have hblank : isBlank c = true := hgap c (by simp)
    have hmark : tagMark ∉ [c] := by
      rw [List.mem_singleton]
      rintro rfl
      exact absurd hblank (by decide)
    have hsplit := FieldText.intro hname hfront (List.cons_ne_nil c []) hmark hnone (Or.inr htag)
    simpa using hsplit

theorem eq_nil_of_trimmed_append {s b : List Char} (h : Trimmed (s ++ b)) (hb : AllBlank b) :
    b = [] := by
  by_contra hne
  have hlast : (s ++ b).getLast? = some (b.getLast hne) := by
    rw [List.getLast?_append_of_ne_nil _ hne, List.getLast?_eq_some_getLast hne]
  have hnot := h.2 _ hlast
  rw [hb _ (List.getLast_mem hne)] at hnot
  exact Bool.noConfusion hnot

section Split

variable {name gap : List Char} (hname : IsName name) (hgap : Gap gap)

include hname hgap

/-- A name, blanks and a text, with a tag or without, are a field. -/
theorem exists_field?_of_text {text tag : List Char} (hne : text ≠ []) (hmark : tagMark ∉ text)
    (hstart : Avoids isBlank text) (htag : tag = [] ∨ IsTag tag) :
    ∃ f, field? (name ++ (gap ++ (text ++ tag))) = some f := by
  have htype : ∃ type, fieldType? gap (text ++ tag) = some type := by
    rcases htag with rfl | htag
    · rw [List.append_nil]
      exact ⟨_, fieldType?_eq_some_iff.mpr (Or.inl ⟨hgap.1, hne, hmark, rfl⟩)⟩
    · exact ⟨_, fieldType?_eq_some_iff.mpr
        (Or.inr (Or.inl ⟨hgap.1, text, tag, rfl, hne, hmark, htag, rfl⟩))⟩
  obtain ⟨type, htype⟩ := htype
  exact ⟨_, field?_eq_some_iff.mpr
    ⟨name, gap, _, type, hname, hgap.2, (avoids_append hne).mpr hstart, rfl, htype, rfl⟩⟩

/-- A name, more than one blank and a tag are a field. -/
theorem exists_field?_of_blank {tag : List Char} (hlength : 2 ≤ gap.length) (htag : IsTag tag) :
    ∃ f, field? (name ++ (gap ++ tag)) = some f := by
  have hlast := List.getLast?_eq_some_getLast hgap.1
  have htype := fieldType?_eq_some_iff.mpr (Or.inr (Or.inr ⟨hlength, htag, _, hlast, rfl⟩))
  exact ⟨_, field?_eq_some_iff.mpr
    ⟨name, gap, tag, _, hname, hgap.2, htag.avoids_blank, rfl, htype, rfl⟩⟩

end Split

/-- A line that can be split as a field is one, if it does not end in a blank. -/
theorem FieldText.exists_field? {line : List Char} (h : FieldText line) (hline : Trimmed line) :
    ∃ f, field? line = some f := by
  obtain ⟨hname, hgap, hne, hmark, hspace, htag⟩ := h
  rename_i name gap text space tag
  obtain ⟨lead, hlead, htext, havoids⟩ := trimStart_eq_iff.mp (rfl : trimStart text = _)
  generalize trimStart text = core at htext havoids
  subst htext
  by_cases hcore : core = []
  · subst hcore
    have hgap' : Gap (gap ++ (lead ++ space)) :=
      ⟨List.append_ne_nil_of_left_ne_nil hgap.1 _, List.forall_mem_append.mpr
        ⟨hgap.2, List.forall_mem_append.mpr ⟨hlead, hspace⟩⟩⟩
    have hsplit : name ++ (gap ++ (lead ++ [] ++ (space ++ tag))) =
        name ++ ((gap ++ (lead ++ space)) ++ tag) := by simp
    rw [hsplit] at hline ⊢
    rcases htag with rfl | htag
    · rw [List.append_nil] at hline
      exact absurd (eq_nil_of_trimmed_append hline hgap'.2) hgap'.1
    · refine exists_field?_of_blank hname hgap' ?_ htag
      have hpos := List.length_pos_iff.mpr hgap.1
      have hpos' := List.length_pos_iff.mpr hne
      simp only [List.append_nil, List.length_append] at hpos' ⊢
      omega
  · have hgap' : Gap (gap ++ lead) :=
      ⟨List.append_ne_nil_of_left_ne_nil hgap.1 _, List.forall_mem_append.mpr ⟨hgap.2, hlead⟩⟩
    have hsplit : name ++ (gap ++ (lead ++ core ++ (space ++ tag))) =
        name ++ ((gap ++ lead) ++ ((core ++ space) ++ tag)) := by simp
    rw [hsplit]
    refine exists_field?_of_text hname hgap' (List.append_ne_nil_of_left_ne_nil hcore _) ?_
      ((avoids_append hcore).mpr havoids) htag
    rw [List.mem_append, not_or]
    exact ⟨fun hmem => hmark (List.mem_append_right lead hmem), hspace.not_mem (by decide)⟩

/-- The blanks behind the name at the start of a line. -/
def gapOf (line : List Char) : List Char := (line.dropWhile isWord).takeWhile isBlank

/-- The text behind the name at the start of a line and the blanks that follow it. -/
def textOf (line : List Char) : List Char := (line.dropWhile isWord).dropWhile isBlank

/-- **What is kept of a field**: the longest name at the start, and the text behind it up to the
tag, without the blanks around it.  If there is no text in front of the tag, a blank is kept. -/
theorem field?_keeps {line : List Char} (hline : Trimmed line) {f : Field}
    (h : field? line = some f) :
    f.name.toList = line.takeWhile isWord ∧
      ((textOf line).head? ≠ some tagMark →
        f.type.toList = trim ((textOf line).takeWhile (· ≠ tagMark))) ∧
      ((textOf line).head? = some tagMark → f.type.toList = (gapOf line).getLast?.toList) := by
  obtain ⟨name, gap, text, type, hname, hgap, htext, rfl, htype, rfl⟩ := field?_eq_some_iff.mp h
  have hne : gap ≠ [] := by
    rintro rfl
    exact absurd htype (by simp [fieldType?])
  have hword := hgap.avoids_word (t := text) hne
  have hrest : (name ++ (gap ++ text)).dropWhile isWord = gap ++ text :=
    dropWhile_append_of_avoids hname.2 hword
  have htextOf : textOf (name ++ (gap ++ text)) = text := by
    rw [textOf, hrest, dropWhile_append_of_avoids hgap htext]
  have hgapOf : gapOf (name ++ (gap ++ text)) = gap := by
    rw [gapOf, hrest, takeWhile_append_of_avoids hgap htext]
  rw [htextOf, hgapOf, takeWhile_append_of_avoids hname.2 hword]
  simp only [String.toList_ofList, true_and]
  rcases fieldType?_eq_some_iff.mp htype with ⟨-, hnil, hmark, rfl⟩ |
    ⟨-, before, tag, rfl, hnil, hmark, ⟨inner, rfl⟩, rfl⟩ | ⟨-, ⟨inner, rfl⟩, c, hc, rfl⟩
  · have hclass : ∀ c ∈ type, decide (c ≠ tagMark) = true := by
      intro c hc
      have hne : c ≠ tagMark := fun heq => hmark (heq ▸ hc)
      simpa using hne
    have htrimmed : Trimmed type := by
      refine ⟨htext, fun c hc => hline.2 c ?_⟩
      rwa [← List.append_assoc, List.getLast?_append_of_ne_nil _ hnil]
    refine ⟨fun _ => ?_, fun hhead => absurd (List.mem_of_head? hhead) hmark⟩
    rw [List.takeWhile_eq_self_iff.mpr hclass, trim_of_trimmed htrimmed]
  · refine ⟨fun _ => ?_, fun hhead => ?_⟩
    · rw [Program.takeWhile_mark hmark, trim_of_avoids ((avoids_append hnil).mp htext)]
    · rw [List.head?_append_of_ne_nil _ hnil] at hhead
      exact absurd (List.mem_of_head? hhead) hmark
  · refine ⟨fun hhead => absurd rfl hhead, fun _ => ?_⟩
    rw [hc]
    rfl

/-! ## Methods -/

/-- A split of a line into a name, a parameter list in parentheses and a rest. -/
structure MethodText (line name params rest : List Char) : Prop where
  isName : IsName name
  oneLevel : OneLevel params
  line_eq : line = name ++ '(' :: (params ++ ')' :: rest)

section Method

variable {line name params rest : List Char}

theorem MethodText.name?_eq (h : MethodText line name params rest) :
    name? line = some (name, '(' :: (params ++ ')' :: rest)) :=
  name?_eq_some_iff.mpr ⟨h.isName, h.line_eq, avoids_cons.mpr (by decide)⟩

theorem MethodText.parameters?_eq (h : MethodText line name params rest) (hline : '\n' ∉ line) :
    parameters? ('(' :: (params ++ ')' :: rest)) = some (params, rest) := by
  refine parameters?_eq_some_iff.mpr ⟨rfl, h.oneLevel, fun hmem => hline ?_⟩
  rw [h.line_eq]
  simp [hmem]

theorem method?_eq_some_iff (hline : '\n' ∉ line) {m : Method} :
    method? line = some m ↔
      ∃ name params rest, MethodText line name params rest ∧ m = methodOf name params rest := by
  constructor
  · intro h
    simp only [method?, Option.bind_eq_bind, Option.bind_eq_some_iff, Prod.exists, Option.pure_def,
      Option.some.injEq, name?_eq_some_iff, parameters?_eq_some_iff] at h
    obtain ⟨name, rest, ⟨hname, rfl, -⟩, params, returns, ⟨rfl, hparams, -⟩, rfl⟩ := h
    exact ⟨name, params, returns, ⟨hname, hparams, rfl⟩, rfl⟩
  · rintro ⟨name, params, rest, h, rfl⟩
    simp [method?, h.name?_eq, h.parameters?_eq hline]

/-- A line is split into a method in one way only. -/
theorem MethodText.unique {name' params' rest' : List Char} (h : MethodText line name params rest)
    (h' : MethodText line name' params' rest') (hline : '\n' ∉ line) :
    name = name' ∧ params = params' ∧ rest = rest' := by
  have hname := h.name?_eq.symm.trans h'.name?_eq
  simp only [Option.some.injEq, Prod.mk.injEq] at hname
  obtain ⟨rfl, hrest⟩ := hname
  have hparams := h.parameters?_eq hline
  rw [hrest, h'.parameters?_eq hline] at hparams
  simp only [Option.some.injEq, Prod.mk.injEq] at hparams
  exact ⟨rfl, hparams.1.symm, hparams.2.symm⟩

end Method

/-! ## Lines -/

/-- What a line of a body of some kind is, if it is anything. -/
structure Classified (kind : Kind) (line : List Char) (entry : Option Member) : Prop where
  embedding : ∀ name, entry = some (.embedding name) ↔ LoneName line name.toList
  field : (∃ f, entry = some (.field f)) ↔
    (¬∃ name, LoneName line name) ∧ kind = .aggregate ∧ FieldText line
  fieldName : ∀ f, entry = some (.field f) → f.name.toList = line.takeWhile isWord
  fieldType : ∀ f, entry = some (.field f) → (textOf line).head? ≠ some tagMark →
    f.type.toList = trim ((textOf line).takeWhile (· ≠ tagMark))
  /-- A tag right behind the blanks leaves the last of them for the type. -/
  fieldBlank : ∀ f, entry = some (.field f) → (textOf line).head? = some tagMark →
    f.type.toList = (gapOf line).getLast?.toList
  method : (∃ m, entry = some (.method m)) ↔
    (¬∃ name, LoneName line name) ∧ kind ≠ .aggregate ∧
      ∃ name params rest, MethodText line name params rest
  methodSplit : ∀ m, entry = some (.method m) →
    ∃ name params rest, MethodText line name params rest ∧
      (∀ name' params' rest', MethodText line name' params' rest' →
        name' = name ∧ params' = params ∧ rest' = rest) ∧
      m.name.toList = name ∧ m.params.toList = trim params ∧ m.returns.toList = trim rest

theorem lines_of_unbroken {line : List Char} (hne : line ≠ [])
    (hbreak : ∀ c ∈ line, isLineBreak c = false) : lines line = [line] := by
  induction line with
  | nil => exact absurd rfl hne
  | cons c line ih =>
      obtain ⟨hc, hline⟩ := List.forall_mem_cons.mp hbreak
      rw [lines_cons_eq_consLine hc]
      by_cases hnil : line = []
      · subst hnil
        rfl
      · rw [ih hnil hline]
        rfl

theorem members_of_line {line : List Char} (hne : line ≠ []) (hline : Trimmed line)
    (hbreak : ∀ c ∈ line, isLineBreak c = false) (kind : Kind) :
    members kind line = (Member.ofLine? kind line).toList := by
  have hlines : bodyLines line = [line] := by
    simp [bodyLines, lines_of_unbroken hne hbreak, trim_of_trimmed hline, hne]
  rw [members, hlines, List.filterMap_cons]
  cases Member.ofLine? kind line <;> rfl

section Reading

variable {kind : Kind} {line : List Char}

theorem ofLine?_eq_embedding_iff {name : String} :
    Member.ofLine? kind line = some (.embedding name) ↔ embedding? line = some name := by
  rcases Member.ofLine?_cases kind line with
    ⟨name', hembedding, hread⟩ | ⟨hembedding, -, hread⟩ | ⟨hembedding, -, hread⟩ <;>
    rw [hread, hembedding] <;> simp

theorem ofLine?_eq_field_iff {f : Field} :
    Member.ofLine? kind line = some (.field f) ↔
      embedding? line = none ∧ kind = .aggregate ∧ field? line = some f := by
  rcases Member.ofLine?_cases kind line with
    ⟨name', hembedding, hread⟩ | ⟨hembedding, hkind, hread⟩ | ⟨hembedding, hkind, hread⟩ <;>
    rw [hread, hembedding] <;> simp [*]

theorem ofLine?_eq_method_iff {m : Method} :
    Member.ofLine? kind line = some (.method m) ↔
      embedding? line = none ∧ kind ≠ .aggregate ∧ method? line = some m := by
  rcases Member.ofLine?_cases kind line with
    ⟨name', hembedding, hread⟩ | ⟨hembedding, hkind, hread⟩ | ⟨hembedding, hkind, hread⟩ <;>
    rw [hread, hembedding] <;> simp [*]

/-- What is read of a line is what the line is. -/
theorem classified_ofLine? (hline : Trimmed line) (hbreak : ∀ c ∈ line, isLineBreak c = false)
    (kind : Kind) : Classified kind line (Member.ofLine? kind line) := by
  have hnewline : '\n' ∉ line := fun hmem => absurd (hbreak _ hmem) (by decide)
  have hkept : ∀ f, Member.ofLine? kind line = some (.field f) → field? line = some f :=
    fun f hf => (ofLine?_eq_field_iff.mp hf).2.2
  refine ⟨?_, ?_, ?_, ?_, ?_, ?_, ?_⟩
  · intro name
    rw [ofLine?_eq_embedding_iff, embedding?_eq_some_iff]
  · simp only [ofLine?_eq_field_iff, embedding?_eq_none_iff]
    constructor
    · rintro ⟨f, hnone, hkind, hf⟩
      exact ⟨hnone, hkind, fieldText_of_field? hf⟩
    · rintro ⟨hnone, hkind, hsplit⟩
      obtain ⟨f, hf⟩ := hsplit.exists_field? hline
      exact ⟨f, hnone, hkind, hf⟩
  · intro f hf
    exact (field?_keeps hline (hkept f hf)).1
  · intro f hf
    exact (field?_keeps hline (hkept f hf)).2.1
  · intro f hf
    exact (field?_keeps hline (hkept f hf)).2.2
  · simp only [ofLine?_eq_method_iff, embedding?_eq_none_iff, method?_eq_some_iff hnewline]
    constructor
    · rintro ⟨m, hnone, hkind, name, params, rest, hsplit, -⟩
      exact ⟨hnone, hkind, name, params, rest, hsplit⟩
    · rintro ⟨hnone, hkind, name, params, rest, hsplit⟩
      exact ⟨_, hnone, hkind, name, params, rest, hsplit, rfl⟩
  · intro m hm
    obtain ⟨-, -, hm⟩ := ofLine?_eq_method_iff.mp hm
    obtain ⟨name, params, rest, hsplit, rfl⟩ := (method?_eq_some_iff hnewline).mp hm
    refine ⟨name, params, rest, hsplit, ?_, ?_⟩
    · intro name' params' rest' hsplit'
      exact hsplit'.unique hsplit hnewline
    · simp [methodOf]

end Reading

attribute [ext] Field Method

section Unique

variable {kind : Kind} {line : List Char} {entry other : Option Member}

theorem Classified.eq_field (h : Classified kind line entry) (h' : Classified kind line other)
    {f : Field} (hf : entry = some (.field f)) : other = some (.field f) := by
  obtain ⟨f', hf'⟩ := h'.field.mpr (h.field.mp ⟨f, hf⟩)
  have hname : f'.name.toList = f.name.toList :=
    (h'.fieldName f' hf').trans (h.fieldName f hf).symm
  have htype : f'.type.toList = f.type.toList := by
    by_cases hhead : (textOf line).head? = some tagMark
    · exact (h'.fieldBlank f' hf' hhead).trans (h.fieldBlank f hf hhead).symm
    · exact (h'.fieldType f' hf' hhead).trans (h.fieldType f hf hhead).symm
  rw [hf', Field.ext (String.toList_inj.mp hname) (String.toList_inj.mp htype)]

theorem Classified.eq_method (h : Classified kind line entry) (h' : Classified kind line other)
    {m : Method} (hm : entry = some (.method m)) : other = some (.method m) := by
  obtain ⟨m', hm'⟩ := h'.method.mpr (h.method.mp ⟨m, hm⟩)
  obtain ⟨name, params, rest, -, honly, hname, hparams, hreturns⟩ := h.methodSplit m hm
  obtain ⟨name', params', rest', hsplit', -, hname', hparams', hreturns'⟩ :=
    h'.methodSplit m' hm'
  obtain ⟨rfl, rfl, rfl⟩ := honly _ _ _ hsplit'
  rw [hm', Method.ext (String.toList_inj.mp (hname'.trans hname.symm))
    (String.toList_inj.mp (hparams'.trans hparams.symm))
    (String.toList_inj.mp (hreturns'.trans hreturns.symm))]

/-- A line is not two things at once. -/
theorem Classified.unique (h : Classified kind line entry) (h' : Classified kind line other) :
    other = entry := by
  have hsome : ∀ {a b : Option Member}, Classified kind line a → Classified kind line b →
      ∀ m, a = some m → b = some m := by
    intro a b ha hb m hm
    cases m with
    | embedding name => exact (hb.embedding name).mpr ((ha.embedding name).mp hm)
    | field f => exact ha.eq_field hb hm
    | method m => exact ha.eq_method hb hm
  exact Option.ext fun m => ⟨hsome h' h m, hsome h h' m⟩

end Unique

end TypeGraph.Source

namespace TypeGraph

open TypeGraph.Source TypeGraph.Text

/-- **A line of a body is one thing.**  A line that has no blanks at its ends and no line breaks is
a lone name, a field, a method or nothing, and not two of them.  Entering it as a body embeds the
name and does nothing else, appends the field or the method to its owner, or leaves the graph as it
is. -/
theorem Graph.addBody_line {line : List Char} (hne : line ≠ []) (hline : Trimmed line)
    (hbreak : ∀ c ∈ line, isLineBreak c = false) (kind : Kind) :
    ∃ entry, Classified kind line entry ∧
      (∀ other, Classified kind line other → other = entry) ∧
      ∀ (g : Graph) (owner : String), g.addBody owner kind line =
        match entry with
        | some (.embedding name) => (g.modify owner (·.addEmbed name)).compose name owner
        | some (.field f) => g.modify owner (·.addField f)
        | some (.method m) => g.modify owner (·.addMethod m)
        | none => g := by
  have hclassified := classified_ofLine? hline hbreak kind
  refine ⟨_, hclassified, fun other => hclassified.unique, ?_⟩
  intro g owner
  rw [Graph.addBody, members_of_line hne hline hbreak]
  cases Member.ofLine? kind line with
  | none => rfl
  | some member => cases member <;> rfl

/-- Of two tags on one line the type ends in front of the first. -/
theorem Graph.addBody_line_tags :
    let line := "tags []string \x60a\x60 \x60b\x60".toList
    line ≠ [] ∧ Trimmed line ∧ (∀ c ∈ line, isLineBreak c = false) ∧
      Graph.addBody { entities := [{ name := "Box" }] } "Box" .aggregate line =
        { entities := [{ name := "Box", fields := [⟨"tags", "[]string"⟩] }] } := by
  intro line
  have hne : line ≠ [] := by decide
  have htrim : trim line = line := by decide
  have hline : Trimmed line := htrim ▸ trimmed_trim line
  have hbreak : ∀ c ∈ line, isLineBreak c = false := forall_mem_of_all (by decide)
  refine ⟨hne, hline, hbreak, ?_⟩
  obtain ⟨entry, hentry, -, hadd⟩ := Graph.addBody_line hne hline hbreak .aggregate
  have hlone : ¬∃ name, LoneName line name := embedding?_eq_none_iff.mp (by decide)
  have hchars : line = "tags".toList ++ ([' '] ++ ("[]string".toList ++ ([' '] ++
      "\x60a\x60 \x60b\x60".toList))) := by decide
  have hsplit : FieldText line := by
    rw [hchars]
    exact FieldText.intro ⟨by decide, forall_mem_of_all (by decide)⟩ gap_space (by decide)
      (by decide) gap_space.2 (Or.inr ⟨"a\x60 \x60b".toList, by decide⟩)
  obtain ⟨f, rfl⟩ := hentry.field.mpr ⟨hlone, rfl, hsplit⟩
  have hname : f.name = "tags" :=
    String.toList_inj.mp ((hentry.fieldName f rfl).trans (by decide))
  have htype : f.type = "[]string" :=
    String.toList_inj.mp ((hentry.fieldType f rfl (by decide)).trans (by decide))
  rw [hadd, show f = ⟨"tags", "[]string"⟩ from Field.ext hname htype]
  decide

end TypeGraph
