import Mathlib.Data.List.Infix
import TypeGraph.Proofs.DiagramReader
import TypeGraph.Proofs.FieldType
import TypeGraph.Proofs.Outcome
import TypeGraph.Proofs.Segments

/-!
# The blocks of a diagram

A diagram opens the block of an entity with a brace at the end of a line and closes it with a brace
on a line of its own.  The texts of the members are written in between as they are, and some of them
can hold braces too: an opening one the type of a field, a closing one only the parameters and the
results of a method with a receiver.  A reader who ends a block at the first closing brace sees the
blocks of the entities exactly if no method with a receiver holds one.
-/

namespace TypeGraph.Diagram

open TypeGraph.Source TypeGraph.Text

/-! ## Braces of a line -/

def braces (s : List Char) : List Char := s.filter fun c => c = '{' ∨ c = '}'

/-- The line has no brace but one that opens or closes a block. -/
inductive Framed : List Char → Prop
  | opening {name : List Char} (hname : IsName name) :
      Framed (['c', 'l', 'a', 's', 's', ' '] ++ (name ++ [' ', '{']))
  | closing : Framed ['}']
  | plain {line : List Char} (h : braces line = []) : Framed line

theorem braces_append (s t : List Char) : braces (s ++ t) = braces s ++ braces t :=
  List.filter_append s t

theorem braces_cons {c : Char} (hopen : c ≠ '{') (hclose : c ≠ '}') (s : List Char) :
    braces (c :: s) = braces s := by
  simp [braces, hopen, hclose]

theorem braces_eq_nil_iff {s : List Char} : braces s = [] ↔ '{' ∉ s ∧ '}' ∉ s := by
  constructor
  · intro h
    rw [braces, List.filter_eq_nil_iff] at h
    exact ⟨fun hmem => h _ hmem (by simp), fun hmem => h _ hmem (by simp)⟩
  · rintro ⟨hopen, hclose⟩
    rw [braces, List.filter_eq_nil_iff]
    intro c hc hbrace
    rcases of_decide_eq_true hbrace with rfl | rfl
    · exact hopen hc
    · exact hclose hc

theorem mem_braces_closing {s : List Char} : '}' ∈ braces s ↔ '}' ∈ s := by
  simp [braces]

theorem braces_of_isName {s : List Char} (h : IsName s) : braces s = [] :=
  braces_eq_nil_iff.mpr ⟨h.not_mem (by decide), h.not_mem (by decide)⟩

theorem braces_mark {mark : Char} (h : mark = '+' ∨ mark = '-') (s : List Char) :
    braces (mark :: s) = braces s := by
  rcases h with rfl | rfl <;> exact braces_cons (by decide) (by decide) s

/-- The braces in the line of a field are those of its type. -/
theorem braces_fieldLine {f : Field} (h : f.Legible) :
    braces (indent ++ fieldLine f).toList = braces f.type.toList := by
  obtain ⟨mark, hmark, hline⟩ := exists_fieldLine f
  have hindent : braces indent.toList = [] := by decide
  rw [String.toList_append, hline, braces_append, hindent, braces_mark hmark, braces_append,
    braces_of_isName h.name, braces_cons (by decide) (by decide),
    braces_cons (by decide) (by decide)]
  rfl

theorem braces_returnsText (m : Method) : braces (returnsText m) = braces m.returns.toList := by
  unfold returnsText
  split
  · rename_i hnone
    rw [hnone]
    rfl
  · exact braces_cons (by decide) (by decide) _

/-- The braces in the line of a method are those of its parameters and of its results. -/
theorem braces_methodLine {m : Method} (h : m.Legible) :
    braces (indent ++ methodLine m).toList = braces (m.params.toList ++ m.returns.toList) := by
  obtain ⟨mark, hmark, hline⟩ := exists_methodLine m
  have hindent : braces indent.toList = [] := by decide
  rw [String.toList_append, hline, braces_append, hindent, braces_mark hmark, braces_append,
    braces_of_isName h.name, braces_cons (by decide) (by decide), braces_append,
    braces_cons (by decide) (by decide), braces_returnsText, braces_append]
  rfl

theorem braces_edge {r : Relationship} (h : r.Legible) : braces (Line.edge r).text.toList = [] := by
  have hsource := braces_of_isName h.source
  have htarget := braces_of_isName h.target
  have harrow : ∀ a : String, a = "<|--" ∨ a = "<|.." → braces a.toList = [] := by
    rintro a (rfl | rfl) <;> decide
  have hspace : braces " ".toList = [] := by decide
  have hne : EdgeType.satisfaction ≠ EdgeType.composition := by decide
  have htype : braces ((arrow? r.type).getD "").toList = [] := by
    rcases h.type with htype | htype
    · exact harrow _ (Or.inl (by simp [htype, arrow?]))
    · exact harrow _ (Or.inr (by simp [htype, arrow?, hne]))
  simp only [Line.text, String.toList_append, braces_append, hsource, htarget, hspace, htype,
    List.append_nil]

/-- An indented line is framed only if it has no braces. -/
theorem framed_indent_iff {line : String} :
    Framed (indent ++ line).toList ↔ braces (indent ++ line).toList = [] := by
  have hspace : (indent ++ line).toList = ' ' :: ("   ".toList ++ line.toList) := by simp [indent]
  constructor
  · intro h
    rw [hspace] at h ⊢
    generalize "   ".toList ++ line.toList = rest at h
    cases h with
    | plain h => exact h
  · exact .plain

/-! ## The reader -/

/-- A block as it is seen when the first closing brace ends it: the name, and the lines that are not
empty. -/
structure Block where
  name : String
  rows : List (List Char)
deriving DecidableEq

/-- The lines of a body that are not empty. -/
def rowsOf (body : List Char) : List (List Char) := (body.splitOn '\n').filter (· ≠ [])

/-- Reads a block at the start of the text, up to the first closing brace. -/
def Block.read? (s : List Char) : Option (Block × List Char) := do
  let s ← expect ['c', 'l', 'a', 's', 's', ' '] s
  let (name, s) ← name? s
  let s ← expect [' ', '{'] s
  let (body, s) ← upTo? '}' s
  return (⟨String.ofList name, rowsOf body⟩, s)

theorem Block.read?_eq_some_iff {s rest : List Char} {b : Block} :
    Block.read? s = some (b, rest) ↔
      ∃ name body, IsName name ∧ '}' ∉ body ∧ b = ⟨String.ofList name, rowsOf body⟩ ∧
        s = ['c', 'l', 'a', 's', 's', ' '] ++ (name ++ ([' ', '{'] ++ (body ++ '}' :: rest))) := by
  simp only [Block.read?, Option.bind_eq_bind, Option.bind_eq_some_iff, Prod.exists,
    Option.pure_def, Option.some.injEq, Prod.mk.injEq, expect_eq_some_iff, name?_eq_some_iff,
    upTo?_eq_some_iff]
  constructor
  · rintro ⟨s₁, rfl, name, s₂, ⟨hname, rfl, -⟩, s₃, rfl, body, s₄, ⟨rfl, hbody⟩, rfl, rfl⟩
    exact ⟨name, body, hname, hbody, rfl, rfl⟩
  · rintro ⟨name, body, hname, hbody, rfl, rfl⟩
    exact ⟨_, rfl, name, _, ⟨hname, rfl, avoids_cons.mpr (by decide)⟩, _, rfl, body, rest,
      ⟨rfl, hbody⟩, rfl, rfl⟩

def Block.pattern : Pattern Block where
  read? := Block.read?
  progress := by
    intro s b rest h
    obtain ⟨name, body, -, -, -, rfl⟩ := Block.read?_eq_some_iff.mp h
    simp only [List.length_append, List.length_cons]
    omega

/-- The blocks of a text, for a reader who ends each at the first closing brace. -/
def blocks (text : String) : List Block := Block.pattern.findAll text.toList

/-- No row of a block that was read holds a closing brace. -/
theorem not_mem_closing_of_mem_blocks {text : String} {b : Block} (h : b ∈ blocks text) :
    ∀ row ∈ b.rows, '}' ∉ row := by
  obtain ⟨t, rest, hread⟩ := Pattern.exists_read_of_mem_findAll h
  obtain ⟨name, body, -, hbody, rfl, -⟩ := Block.read?_eq_some_iff.mp hread
  intro row hrow hmem
  have hsplit : row ∈ body.splitOn '\n' := List.mem_of_mem_filter hrow
  have hjoined : '}' ∈ ['\n'].intercalate (body.splitOn '\n') := mem_intercalate hmem hsplit
  rw [List.intercalate_splitOn] at hjoined
  exact hbody hjoined

theorem Block.read?_eq_none_of_not_mem {s : List Char} (h : '{' ∉ s) : Block.read? s = none := by
  cases hread : Block.read? s with
  | none => rfl
  | some found =>
      obtain ⟨b, rest⟩ := found
      obtain ⟨name, body, -, -, -, rfl⟩ := Block.read?_eq_some_iff.mp hread
      exact absurd (by simp) h

theorem Block.read?_cons_eq_none {c : Char} (hc : c ≠ 'c') (s : List Char) :
    Block.read? (c :: s) = none := by
  cases hread : Block.read? (c :: s) with
  | none => rfl
  | some found =>
      obtain ⟨b, rest⟩ := found
      obtain ⟨name, body, -, -, -, heq⟩ := Block.read?_eq_some_iff.mp hread
      injection heq with hcc
      exact absurd hcc hc

theorem findAll_of_not_mem {s : List Char} (h : '{' ∉ s) : Block.pattern.findAll s = [] := by
  have hpass := Pattern.findAll_append_of_none (p := Block.pattern) (x := s) [] fun t _ ht =>
    Block.read?_eq_none_of_not_mem fun hmem => h (ht.subset (by simpa using hmem))
  rw [List.append_nil] at hpass
  rw [hpass, Pattern.findAll]

/-- The header opens no block: the letter behind `class` is not a blank. -/
theorem findAll_header (s : List Char) :
    Block.pattern.findAll (header.toList ++ s) = Block.pattern.findAll s := by
  refine Pattern.findAll_append_of_none s ?_
  intro t hne ht
  have hsuffixes : ∀ t ∈ header.toList.tails, t = [] ∨ t = header.toList ∨ t.head? ≠ some 'c' := by
    decide
  rcases hsuffixes t ((List.mem_tails _ _).mpr ht) with rfl | rfl | hhead
  · exact absurd rfl hne
  · rfl
  · cases t with
    | nil => exact absurd rfl hne
    | cons c t => exact Block.read?_cons_eq_none (by simpa using hhead) _

/-! ## The text of a diagram -/

def memberLines (e : Entity) : List String :=
  (if e.isContract then [indent ++ "<<Interface>>"] else []) ++
    e.fields.map (indent ++ fieldLine ·) ++ e.methods.map (indent ++ methodLine ·)

def Block.ofEntity (e : Entity) : Block := ⟨e.name, (memberLines e).map String.toList⟩

/-- Lines, each behind a line feed. -/
def fed (lines : List (List Char)) : List Char := lines.flatMap ('\n' :: ·)

theorem intercalate_eq_fed (line : List Char) (lines : List (List Char)) :
    ['\n'].intercalate (line :: lines) = line ++ fed lines := by
  induction lines generalizing line with
  | nil => simp [fed]
  | cons next lines ih =>
      rw [List.intercalate_cons_cons, ih]
      simp [fed]

theorem rowsOf_fed {rows : List (List Char)} (hrows : ∀ row ∈ rows, row ≠ [] ∧ '\n' ∉ row) :
    rowsOf (fed rows ++ ['\n']) = rows := by
  have hjoin : fed rows ++ ['\n'] = ['\n'].intercalate ([] :: (rows ++ [[]])) := by
    rw [intercalate_eq_fed]
    simp [fed]
  have hlines : ∀ line ∈ ([] : List Char) :: (rows ++ [[]]), '\n' ∉ line := by
    intro line hline
    simp only [List.mem_cons, List.mem_append, List.not_mem_nil, or_false] at hline
    rcases hline with rfl | hline | rfl
    · simp
    · exact (hrows line hline).2
    · simp
  have hkept : rows.filter (· ≠ []) = rows := by
    refine List.filter_eq_self.mpr ?_
    intro row hrow
    simpa using (hrows row hrow).1
  rw [rowsOf, hjoin, List.splitOn_intercalate '\n' hlines (by simp)]
  simpa using hkept

theorem mem_memberLines {e : Entity} {line : String} (h : line ∈ memberLines e) :
    line = indent ++ "<<Interface>>" ∨ (∃ f ∈ e.fields, line = indent ++ fieldLine f) ∨
      ∃ m ∈ e.methods, line = indent ++ methodLine m := by
  simp only [memberLines, List.mem_append, List.mem_map] at h
  rcases h with (h | ⟨f, hf, rfl⟩) | ⟨m, hm, rfl⟩
  · split at h
    · exact Or.inl (List.mem_singleton.mp h)
    · exact absurd h List.not_mem_nil
  · exact Or.inr (Or.inl ⟨f, hf, rfl⟩)
  · exact Or.inr (Or.inr ⟨m, hm, rfl⟩)

/-- The member lines of an entity, given as what they are. -/
theorem entityLines_eq_memberLines (e : Entity) :
    entityLines e = ("class " ++ e.name ++ " \x7b") :: (memberLines e ++ ["\x7d"]) := by
  simp [entityLines, memberLines]

theorem row_of_mem_memberLines {e : Entity} (h : e.Legible) {line : String}
    (hline : line ∈ memberLines e) : line.toList ≠ [] ∧ '\n' ∉ line.toList := by
  have hindent : ∀ text : String, (indent ++ text).toList ≠ [] := by
    intro text
    simp [indent]
  rcases mem_memberLines hline with rfl | ⟨f, hf, rfl⟩ | ⟨m, hm, rfl⟩
  · exact ⟨hindent _, Line.onOneLine_text (l := .marker) trivial⟩
  · exact ⟨hindent _, Line.onOneLine_text (l := .field f) (h.fields f hf)⟩
  · exact ⟨hindent _, Line.onOneLine_text (l := .method m) (h.methods m hm)⟩

/-- The block of an entity is read up to its closing line, if there is no closing brace in its
members. -/
theorem findAll_entity {e : Entity} (h : e.Legible)
    (hclose : ∀ line ∈ memberLines e, '}' ∉ line.toList) (rest : List Char) :
    Block.pattern.findAll (fed ((entityLines e).map String.toList) ++ rest) =
      Block.ofEntity e :: Block.pattern.findAll rest := by
  have hbody : '}' ∉ fed ((memberLines e).map String.toList) ++ ['\n'] := by
    simp only [fed, List.mem_append, List.mem_flatMap, List.mem_map, List.mem_singleton]
    rintro (⟨_, ⟨line, hline, rfl⟩, hmem⟩ | hmem)
    · rcases List.mem_cons.mp hmem with hmem | hmem
      · exact absurd hmem (by decide)
      · exact hclose line hline hmem
    · exact absurd hmem (by decide)
  have hrows : rowsOf (fed ((memberLines e).map String.toList) ++ ['\n']) =
      (memberLines e).map String.toList := by
    refine rowsOf_fed ?_
    intro row hrow
    obtain ⟨line, hline, rfl⟩ := List.mem_map.mp hrow
    exact row_of_mem_memberLines h hline
  have htext : fed ((entityLines e).map String.toList) ++ rest =
      '\n' :: (['c', 'l', 'a', 's', 's', ' '] ++ (e.name.toList ++ ([' ', '{'] ++
        ((fed ((memberLines e).map String.toList) ++ ['\n']) ++ '}' :: rest)))) := by
    rw [entityLines_eq_memberLines]
    simp [fed]
  have hread : Block.pattern.read? (['c', 'l', 'a', 's', 's', ' '] ++ (e.name.toList ++
      ([' ', '{'] ++ ((fed ((memberLines e).map String.toList) ++ ['\n']) ++ '}' :: rest)))) =
      some (Block.ofEntity e, rest) := by
    refine Block.read?_eq_some_iff.mpr ⟨e.name.toList, _, h.name, hbody, ?_, rfl⟩
    rw [hrows, String.ofList_toList]
    rfl
  rw [htext, Pattern.findAll_cons_of_none (Block.read?_cons_eq_none (by decide) _),
    Pattern.findAll_of_read hread]

theorem findAll_entities {es : List Entity} (h : ∀ e ∈ es, e.Legible)
    (hclose : ∀ e ∈ es, ∀ line ∈ memberLines e, '}' ∉ line.toList) (rest : List Char) :
    Block.pattern.findAll (fed ((es.flatMap entityLines).map String.toList) ++ rest) =
      es.map Block.ofEntity ++ Block.pattern.findAll rest := by
  induction es with
  | nil => rfl
  | cons e es ih =>
      have hsplit : fed (((e :: es).flatMap entityLines).map String.toList) ++ rest =
          fed ((entityLines e).map String.toList) ++
            (fed ((es.flatMap entityLines).map String.toList) ++ rest) := by
        simp [fed]
      rw [hsplit, findAll_entity (h e List.mem_cons_self) (hclose e List.mem_cons_self),
        ih (fun e' he' => h e' (List.mem_cons_of_mem e he'))
          (fun e' he' => hclose e' (List.mem_cons_of_mem e he'))]
      rfl

section Text

variable {g : Graph} {text : String}

theorem text_of_render (h : g.Legible) (htext : render g = .ok text) :
    text = "\n".intercalate (header :: (graphLines g).map (·.text)) := by
  rw [render, lines_eq h] at htext
  exact (Except.ok.inj htext).symm

theorem toList_of_render (h : g.Legible) (htext : render g = .ok text) :
    text.toList = header.toList ++ (fed ((g.entities.flatMap entityLines).map String.toList) ++
      fed (g.relationships.map fun r => (Line.edge r).text.toList)) := by
  have hnewline : "\n".toList = ['\n'] := rfl
  rw [text_of_render h htext, String.toList_intercalate, hnewline, List.map_cons,
    intercalate_eq_fed, graphLines, List.map_append, map_text_linesOf]
  simp [fed, Function.comp_def]

/-- **The blocks that are seen are those of the entities**, exactly if no member line holds a
closing brace. -/
theorem blocks_eq_iff (h : g.Legible) (htext : render g = .ok text) :
    blocks text = g.entities.map Block.ofEntity ↔
      ∀ e ∈ g.entities, ∀ line ∈ memberLines e, '}' ∉ line.toList := by
  constructor
  · intro heq e he line hline
    have hmem : Block.ofEntity e ∈ blocks text := by
      rw [heq]
      exact List.mem_map_of_mem he
    exact not_mem_closing_of_mem_blocks hmem _ (List.mem_map_of_mem hline)
  · intro hclose
    have hedges : '{' ∉ fed (g.relationships.map fun r => (Line.edge r).text.toList) := by
      simp only [fed, List.mem_flatMap, List.mem_map]
      rintro ⟨_, ⟨r, hr, rfl⟩, hmem⟩
      rcases List.mem_cons.mp hmem with hmem | hmem
      · exact absurd hmem (by decide)
      · exact (braces_eq_nil_iff.mp (braces_edge (h.relationships r hr))).1 hmem
    rw [blocks, toList_of_render h htext, findAll_header, findAll_entities h.entities hclose,
      findAll_of_not_mem hedges, List.append_nil]

theorem mem_splitOn_iff (h : g.Legible) (htext : render g = .ok text) {line : List Char} :
    line ∈ text.toList.splitOn '\n' ↔
      line = header.toList ∨ ∃ l ∈ graphLines g, line = l.text.toList := by
  rw [text_of_render h htext, splitOn_text h, List.mem_cons, List.mem_map]
  simp [eq_comm]

/-- Every line is framed, or it is the line of a member and has the braces of its texts. -/
theorem framed_or_member (h : g.Legible) (htext : render g = .ok text) {line : List Char}
    (hline : line ∈ text.toList.splitOn '\n') :
    Framed line ∨ ∃ e ∈ g.entities,
      (∃ f ∈ e.fields, line = (indent ++ fieldLine f).toList ∧
        braces line = braces f.type.toList) ∨
      ∃ m ∈ e.methods, line = (indent ++ methodLine m).toList ∧
        braces line = braces (m.params.toList ++ m.returns.toList) := by
  rcases (mem_splitOn_iff h htext).mp hline with rfl | ⟨l, hl, rfl⟩
  · exact Or.inl (.plain (by decide))
  rcases List.mem_append.mp hl with hl | hl
  · obtain ⟨e, he, hl⟩ := List.mem_flatMap.mp hl
    have hlegible := h.entities e he
    simp only [linesOf, List.mem_append, List.mem_singleton, List.mem_map] at hl
    rcases hl with (((rfl | hmarker) | ⟨f, hf, rfl⟩) | ⟨m, hm, rfl⟩) | rfl
    · left
      have hopening : (Line.opening e.name).text.toList =
          ['c', 'l', 'a', 's', 's', ' '] ++ (e.name.toList ++ [' ', '{']) := by simp [Line.text]
      rw [hopening]
      exact .opening hlegible.name
    · left
      split at hmarker
      · rw [List.mem_singleton.mp hmarker]
        exact .plain (by decide)
      · exact absurd hmarker List.not_mem_nil
    · exact Or.inr ⟨e, he, Or.inl ⟨f, hf, rfl, braces_fieldLine (hlegible.fields f hf)⟩⟩
    · exact Or.inr ⟨e, he, Or.inr ⟨m, hm, rfl, braces_methodLine (hlegible.methods m hm)⟩⟩
    · exact Or.inl .closing
  · obtain ⟨r, hr, rfl⟩ := List.mem_map.mp hl
    exact Or.inl (.plain (braces_edge (h.relationships r hr)))

/-- All lines are framed exactly if no text of a member holds a brace. -/
theorem forall_framed_iff (h : g.Legible) (htext : render g = .ok text) :
    (∀ line ∈ text.toList.splitOn '\n', Framed line) ↔
      ∀ e ∈ g.entities, (∀ f ∈ e.fields, braces f.type.toList = []) ∧
        ∀ m ∈ e.methods, braces (m.params.toList ++ m.returns.toList) = [] := by
  constructor
  · intro hall e he
    have hlegible := h.entities e he
    have hmember : ∀ l ∈ linesOf e, Framed l.text.toList := by
      intro l hl
      refine hall _ ((mem_splitOn_iff h htext).mpr (Or.inr ⟨l, ?_, rfl⟩))
      exact List.mem_append_left _ (List.mem_flatMap.mpr ⟨e, he, hl⟩)
    constructor
    · intro f hf
      rw [← braces_fieldLine (hlegible.fields f hf)]
      exact framed_indent_iff.mp (hmember (.field f) (by simp [linesOf, hf]))
    · intro m hm
      rw [← braces_methodLine (hlegible.methods m hm)]
      exact framed_indent_iff.mp (hmember (.method m) (by simp [linesOf, hm]))
  · intro hnone line hline
    rcases framed_or_member h htext hline with hframed | ⟨e, he, ⟨f, hf, -, hbraces⟩ |
      ⟨m, hm, -, hbraces⟩⟩
    · exact hframed
    · exact .plain (hbraces.trans ((hnone e he).1 f hf))
    · exact .plain (hbraces.trans ((hnone e he).2 m hm))

end Text

end TypeGraph.Diagram

namespace TypeGraph.Source

open TypeGraph.Text

/-! ## Closing braces of a source text -/

theorem mem_of_mem_lines {s l : List Char} (h : l ∈ lines s) : ∀ c ∈ l, c ∈ s := by
  fun_induction lines s generalizing l with
  | case1 => exact absurd h List.not_mem_nil
  | case2 cs ih =>
      rcases List.mem_cons.mp h with rfl | h
      · simp
      · intro c hc
        exact List.mem_cons_of_mem _ (List.mem_cons_of_mem _ (ih h c hc))
  | case3 c cs _ hbreak ih =>
      rcases List.mem_cons.mp h with rfl | h
      · simp
      · intro d hd
        exact List.mem_cons_of_mem c (ih h d hd)
  | case4 c cs _ hbreak ih =>
      intro d hd
      rcases mem_consLine h with h | rfl | ⟨l', hl', rfl⟩
      · exact List.mem_cons_of_mem c (ih h d hd)
      · rw [List.mem_singleton.mp hd]
        exact List.mem_cons_self
      · rcases List.mem_cons.mp hd with rfl | hd
        · exact List.mem_cons_self
        · exact List.mem_cons_of_mem c (ih hl' d hd)

/-- A body ends at the first closing brace, so its lines hold none. -/
theorem not_mem_closing_bodyLines {code : List Char} {d : Declaration} (h : d ∈ declarations code)
    {line : List Char} (hline : line ∈ bodyLines d.body) : '}' ∉ line := by
  obtain ⟨t, rest, hread⟩ := Pattern.exists_read_of_mem_findAll h
  obtain ⟨_, -, -, -, -, hbody⟩ := Declaration.read?_eq_some_iff.mp hread
  obtain ⟨hmem, -⟩ := List.mem_filter.mp hline
  obtain ⟨l, hl, rfl⟩ := List.mem_map.mp hmem
  exact fun hclose => hbody (mem_of_mem_lines hl _ (mem_of_mem_trim hclose))

theorem mem_of_field? {line : List Char} {f : Field} (h : field? line = some f) :
    ∀ c ∈ f.type.toList, c ∈ line := by
  obtain ⟨name, gap, text, type, -, -, -, rfl, htype, rfl⟩ := field?_eq_some_iff.mp h
  intro c hc
  rw [String.toList_ofList] at hc
  exact List.mem_append_right name (List.mem_append.mpr (mem_of_mem_fieldType? htype c hc))

theorem mem_of_method? {line : List Char} {m : Method} (h : method? line = some m) :
    ∀ c ∈ m.params.toList ++ m.returns.toList, c ∈ line := by
  simp only [method?, Option.bind_eq_bind, Option.bind_eq_some_iff, Prod.exists, Option.pure_def,
    Option.some.injEq, name?_eq_some_iff, parameters?_eq_some_iff] at h
  obtain ⟨name, rest, ⟨-, rfl, -⟩, params, returns, ⟨rfl, -, -⟩, rfl⟩ := h
  intro c hc
  simp only [methodOf, String.toList_ofList, List.mem_append] at hc
  rcases hc with hc | hc
  · simp [mem_of_mem_trim hc]
  · simp [mem_of_mem_trim hc]

end TypeGraph.Source

namespace TypeGraph

open TypeGraph.Source TypeGraph.Diagram

section Members

variable {source : String} {e : Entity}

theorem Graph.not_mem_closing_field (he : e ∈ (Graph.ofSource source).entities) {f : Field}
    (hf : f ∈ e.fields) : '}' ∉ f.type.toList := by
  obtain ⟨d, hd, -, line, hline, -, hfield⟩ := Graph.exists_mem_fields_iff.mp ⟨e, he, hf⟩
  exact fun hclose => not_mem_closing_bodyLines hd hline (mem_of_field? hfield _ hclose)

/-- Only the text of a method with a receiver can hold a closing brace. -/
theorem Graph.received_of_closing (he : e ∈ (Graph.ofSource source).entities) {m : Method}
    (hm : m ∈ e.methods) (hclose : '}' ∈ m.params.toList ++ m.returns.toList) :
    ∃ r ∈ receiverMethods (stripComments source.toList), r.received = (e.name, m) := by
  rw [Graph.entities_ofSource] at he
  obtain ⟨name, -, rfl⟩ := List.mem_map.mp he
  rcases List.mem_append.mp hm with hm | hm
  · obtain ⟨c, hc, hm⟩ := List.mem_flatMap.mp hm
    obtain ⟨d, hd, rfl⟩ := List.mem_map.mp (List.mem_filter.mp hc).1
    cases hkeyword : d.keyword with
    | struct => simp [Declaration.contents, hkeyword] at hm
    | interface =>
        simp only [Declaration.contents, hkeyword, if_true, List.mem_filterMap] at hm
        obtain ⟨line, hline, hmethod⟩ := hm
        exact absurd (mem_of_method? hmethod _ hclose)
          (not_mem_closing_bodyLines hd (List.mem_filter.mp hline).1)
  · obtain ⟨p, hp, rfl⟩ := List.mem_map.mp hm
    obtain ⟨hp, hname⟩ := List.mem_filter.mp hp
    obtain ⟨r, hr, rfl⟩ := List.mem_map.mp hp
    exact ⟨r, hr, Prod.ext (of_decide_eq_true hname) rfl⟩

end Members

/-- No member line of a source text holds a closing brace exactly if no method with a receiver
does. -/
theorem Graph.memberLines_unclosed_iff (source : String) :
    (∀ e ∈ (Graph.ofSource source).entities, ∀ line ∈ memberLines e, '}' ∉ line.toList) ↔
      ∀ r ∈ receiverMethods (stripComments source.toList),
        '}' ∉ r.method.params.toList ++ r.method.returns.toList := by
  have hlegible := (Graph.legible_ofSource source).entities
  constructor
  · intro hall r hr hclose
    obtain ⟨e, he, -, hm⟩ := Graph.exists_entity_of_receiverMethod hr
    refine hall e he (indent ++ methodLine r.method) ?_ ?_
    · exact List.mem_append_right _ (List.mem_map_of_mem hm)
    · rw [← mem_braces_closing, braces_methodLine ((hlegible e he).methods _ hm)]
      exact mem_braces_closing.mpr hclose
  · intro hall e he line hline hclose
    rw [← mem_braces_closing] at hclose
    rcases mem_memberLines hline with rfl | ⟨f, hf, rfl⟩ | ⟨m, hm, rfl⟩
    · exact absurd hclose (by decide)
    · rw [braces_fieldLine ((hlegible e he).fields f hf), mem_braces_closing] at hclose
      exact Graph.not_mem_closing_field he hf hclose
    · rw [braces_methodLine ((hlegible e he).methods m hm), mem_braces_closing] at hclose
      obtain ⟨r, hr, hreceived⟩ := Graph.received_of_closing he hm hclose
      have hmethod : r.method = m := congrArg Prod.snd hreceived
      exact hall r hr (hmethod ▸ hclose)

/-- **The braces of a diagram.**  A line of a diagram has no brace but one that opens or closes a
block, or it is the line of a field or of a method and has the braces of the texts recorded for it.
Of these a field has no closing one, a method has one only if it has a receiver, and the results of
a method with a receiver have no opening one.  So all braces are those of blocks exactly if no
recorded text holds a brace; and a reader who ends a block at the first closing brace sees one block
per entity, with the lines of its members, exactly if no method with a receiver holds one. -/
theorem Service.braces_diagram {source text : String}
    (h : Service.standing.diagram source = .ok text) :
    (∀ line ∈ text.toList.splitOn '\n', Framed line ∨
      ∃ e ∈ (Graph.ofSource source).entities,
        (∃ f ∈ e.fields, line = (indent ++ fieldLine f).toList ∧
          braces line = braces f.type.toList ∧ '}' ∉ line) ∨
        ∃ m ∈ e.methods, line = (indent ++ methodLine m).toList ∧
          braces line = braces (m.params.toList ++ m.returns.toList) ∧
          ('}' ∈ line → ∃ r ∈ receiverMethods (stripComments source.toList),
            r.received = (e.name, m))) ∧
    (∀ r ∈ receiverMethods (stripComments source.toList), '{' ∉ r.method.returns.toList) ∧
    ((∀ line ∈ text.toList.splitOn '\n', Framed line) ↔
      ∀ e ∈ (Graph.ofSource source).entities,
        (∀ f ∈ e.fields, braces f.type.toList = []) ∧
        ∀ m ∈ e.methods, braces (m.params.toList ++ m.returns.toList) = []) ∧
    (blocks text = (Graph.ofSource source).entities.map Block.ofEntity ↔
      ∀ r ∈ receiverMethods (stripComments source.toList),
        '}' ∉ r.method.params.toList ++ r.method.returns.toList) := by
  have hlegible := Graph.legible_ofSource source
  have hrender : render (Graph.ofSource source) = .ok text := by
    rcases Service.diagram_cases source with ⟨-, hfail⟩ | ⟨-, -, hfail⟩ | ⟨-, -, drawn, hdrawn, hok⟩
    · rw [hfail] at h
      cases h
    · rw [hfail] at h
      cases h
    · rw [hok] at h
      cases h
      exact hdrawn
  refine ⟨?_, fun r => ReceiverMethod.not_mem_opening_returns,
    forall_framed_iff hlegible hrender, ?_⟩
  · intro line hline
    rcases framed_or_member hlegible hrender hline with
      hframed | ⟨e, he, ⟨f, hf, hfield, hbraces⟩ | ⟨m, hm, hmethod, hbraces⟩⟩
    · exact Or.inl hframed
    · refine Or.inr ⟨e, he, Or.inl ⟨f, hf, hfield, hbraces, ?_⟩⟩
      rw [← mem_braces_closing, hbraces, mem_braces_closing]
      exact Graph.not_mem_closing_field he hf
    · refine Or.inr ⟨e, he, Or.inr ⟨m, hm, hmethod, hbraces, ?_⟩⟩
      rw [← mem_braces_closing, hbraces, mem_braces_closing]
      exact Graph.received_of_closing he hm
  · exact (blocks_eq_iff hlegible hrender).trans (Graph.memberLines_unclosed_iff source)

/-- An opening brace in the type of a field does not change the blocks that are seen. -/
theorem Service.braces_diagram_box :
    let source := "type Box struct \x7b\n\tlid interface\x7b\n\x7d\n" ++
      "func (b *Box) Get(n int) error \x7b\n\x7d\n"
    let text := "classDiagram\nclass Box \x7b\n    -lid: interface\x7b\n" ++
      "    +Get(n int) error\n\x7d"
    Service.standing.diagram source = .ok text ∧
      blocks text = (Graph.ofSource source).entities.map Block.ofEntity := by
  intro source text
  have hdiagram : Service.standing.diagram source = .ok text := by decide +kernel
  refine ⟨hdiagram, (Service.braces_diagram hdiagram).2.2.2.mpr ?_⟩
  have hmethods : receiverMethods (stripComments source.toList) =
      [⟨"*Box", ⟨"Get", "n int", "error"⟩⟩] := by decide +kernel
  rw [hmethods]
  decide

/-- The braces of an empty interface reach the diagram: the line of a field and the line of a method
hold braces of their own, and the block is seen to end inside the parameters. -/
theorem Service.not_framed_emptyInterface :
    let source := "type Box struct \x7b\n\tlid interface\x7b\x7d\n\x7d\n" ++
      "func (b *Box) Set(lid interface\x7b\x7d) \x7b\n\x7d\n"
    let text := "classDiagram\nclass Box \x7b\n    -lid: interface\x7b\n" ++
      "    +Set(lid interface\x7b\x7d)\n\x7d"
    Service.standing.diagram source = .ok text ∧
      ¬ (∀ line ∈ text.toList.splitOn '\n', Framed line) ∧
      blocks text ≠ (Graph.ofSource source).entities.map Block.ofEntity := by
  intro source text
  refine ⟨by decide +kernel, ?_, by decide +kernel⟩
  intro hall
  have hline : (indent ++ "-lid: interface\x7b").toList ∈ text.toList.splitOn '\n' := by
    decide +kernel
  have hbraces := framed_indent_iff.mp (hall _ hline)
  exact absurd hbraces (by decide)

end TypeGraph
