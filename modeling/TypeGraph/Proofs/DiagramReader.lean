import TypeGraph.Diagram
import TypeGraph.Graph.Description
import TypeGraph.Proofs.Legible
import TypeGraph.Proofs.NoMatch

/-!
# Reading a diagram back

A diagram writes the texts of a graph without quoting.  The reader below works line by line: members
are indented and everything else is not, the name at the start of a member ends at the first
character that is no word character, and the parentheses of a parameter list match.  For the graphs
that extraction builds this tells every line apart, so the reader gets back all that the graph says,
except for which entities were declared.  What an entity embeds is read off the composition edges.
-/

namespace TypeGraph.Diagram

open TypeGraph.Source TypeGraph.Text

/-! ## Lines of a diagram -/

inductive Line where
  | opening (name : String)
  | marker
  | field (field : Field)
  | method (method : Method)
  | closing
  | edge (edge : Relationship)

def Line.text : Line → String
  | .opening name => "class " ++ name ++ " \x7b"
  | .marker => indent ++ "<<Interface>>"
  | .field f => indent ++ fieldLine f
  | .method m => indent ++ methodLine m
  | .closing => "\x7d"
  | .edge r => r.source ++ " " ++ (arrow? r.type).getD "" ++ " " ++ r.target

def linesOf (e : Entity) : List Line :=
  [.opening e.name] ++ (if e.isContract then [.marker] else []) ++ e.fields.map .field ++
    e.methods.map .method ++ [.closing]

def graphLines (g : Graph) : List Line :=
  g.entities.flatMap linesOf ++ g.relationships.map .edge

/-! ## The reader -/

def member? (s : List Char) : Option Line :=
  if s.head? = some '<' then some .marker
  else
    match name? s.tail with
    | none => none
    | some (name, rest) =>
      match expect [':', ' '] rest with
      | some type => some (.field ⟨String.ofList name, String.ofList type⟩)
      | none =>
        (parameters? rest).map fun (params, returns) =>
          .method ⟨String.ofList name, String.ofList params, String.ofList returns.tail⟩

def opening? (s : List Char) : Option Line :=
  match (expect ['c', 'l', 'a', 's', 's', ' '] s).bind name? with
  | some (name, rest) => if rest = [' ', '{'] then some (.opening (String.ofList name)) else none
  | none => none

def arrowType? (s : List Char) : Option (EdgeType × List Char) :=
  ((expect [' ', '<', '|', '-', '-', ' '] s).map (.composition, ·)).or
    ((expect [' ', '<', '|', '.', '.', ' '] s).map (.satisfaction, ·))

def edge? (s : List Char) : Option Line := do
  let (source, s) ← name? s
  let (type, target) ← arrowType? s
  return .edge ⟨String.ofList source, String.ofList target, type⟩

def Line.read? (s : List Char) : Option Line :=
  match expect indent.toList s with
  | some member => member? member
  | none => if s = ['}'] then some .closing else (opening? s).or (edge? s)

/-- A graph of which some lines have been read, with the entity whose block is open. -/
structure Draft where
  graph : Graph := {}
  current : Entity := { name := "" }

def Draft.enter (d : Draft) : Line → Draft
  | .opening name => { d with current := { name := name } }
  | .marker => { d with current := { d.current with kind := .contract } }
  | .field f => { d with current := d.current.addField f }
  | .method m => { d with current := d.current.addMethod m }
  | .closing => { d with graph := { d.graph with entities := d.graph.entities ++ [d.current] } }
  | .edge r => { d with graph := { d.graph with relationships := d.graph.relationships ++ [r] } }

/-- Embeds in every entity the sources of the composition edges that point at it. -/
def embedSources (g : Graph) : Graph :=
  { g with
    entities := g.entities.map fun e =>
      { e with
        embeds := ((g.edges (some .composition)).filter (·.target = e.name)).map (·.source) } }

def read (text : String) : Graph :=
  let lines := (text.toList.splitOn '\n').tail
  embedSources ((lines.filterMap Line.read?).foldl Draft.enter {}).graph

/-! ## Every line reads back -/

/-- The texts of a line are within the bounds of extraction. -/
def Line.Legible : Line → Prop
  | .opening name => IsNamed name
  | .marker => True
  | .field f => f.Legible
  | .method m => m.Legible
  | .closing => True
  | .edge r => r.Legible

theorem exists_visibility (name : String) :
    ∃ mark, (mark = '+' ∨ mark = '-') ∧ (visibility name).toList = [mark] := by
  unfold visibility
  split
  · exact ⟨'+', Or.inl rfl, rfl⟩
  · exact ⟨'-', Or.inr rfl, rfl⟩

theorem exists_fieldLine (f : Field) :
    ∃ mark, (mark = '+' ∨ mark = '-') ∧
      (fieldLine f).toList = mark :: (f.name.toList ++ ':' :: ' ' :: f.type.toList) := by
  obtain ⟨mark, hmark, hlist⟩ := exists_visibility f.name
  exact ⟨mark, hmark, by simp [fieldLine, hlist]⟩

def returnsText (m : Method) : List Char := if m.returns = "" then [] else ' ' :: m.returns.toList

theorem exists_methodLine (m : Method) :
    ∃ mark, (mark = '+' ∨ mark = '-') ∧
      (methodLine m).toList =
        mark :: (m.name.toList ++ '(' :: (m.params.toList ++ ')' :: returnsText m)) := by
  obtain ⟨mark, hmark, hlist⟩ := exists_visibility m.name
  refine ⟨mark, hmark, ?_⟩
  unfold methodLine returnsText
  by_cases h : m.returns = ""
  · simp [h, hlist]
  · simp [h, hlist]

theorem tail_returnsText (m : Method) : String.ofList (returnsText m).tail = m.returns := by
  unfold returnsText
  by_cases h : m.returns = ""
  · simp [h]
  · simp [h]

theorem name?_append_cons {name rest : List Char} {c : Char} (hname : IsName name)
    (hc : isWord c = false) : name? (name ++ c :: rest) = some (name, c :: rest) :=
  name?_eq_some_iff.mpr ⟨hname, rfl, avoids_cons.mpr hc⟩

theorem member?_fieldLine {f : Field} (h : f.Legible) :
    member? (fieldLine f).toList = some (.field f) := by
  obtain ⟨mark, hmark, hline⟩ := exists_fieldLine f
  have hne : mark ≠ '<' := by rcases hmark with rfl | rfl <;> decide
  rw [hline, member?, if_neg (by simpa using hne), List.tail_cons,
    name?_append_cons h.name (by decide)]
  simp [expect]

theorem member?_methodLine {m : Method} (h : m.Legible) :
    member? (methodLine m).toList = some (.method m) := by
  obtain ⟨mark, hmark, hline⟩ := exists_methodLine m
  have hne : mark ≠ '<' := by rcases hmark with rfl | rfl <;> decide
  have hparams : parameters? ('(' :: (m.params.toList ++ ')' :: returnsText m)) =
      some (m.params.toList, returnsText m) :=
    parameters?_eq_some_iff.mpr ⟨rfl, h.oneLevel, h.params⟩
  rw [hline, member?, if_neg (by simpa using hne), List.tail_cons,
    name?_append_cons h.name (by decide)]
  simp [expect, hparams, tail_returnsText]

theorem read?_indent (line : String) :
    Line.read? (indent ++ line).toList = member? line.toList := by
  have hexpect : expect indent.toList (indent ++ line).toList = some line.toList :=
    expect_eq_some_iff.mpr String.toList_append
  rw [Line.read?, hexpect]

theorem read?_opening {name : String} (h : IsNamed name) :
    Line.read? (Line.opening name).text.toList = some (.opening name) := by
  have hlist : (Line.opening name).text.toList =
      ['c', 'l', 'a', 's', 's', ' '] ++ (name.toList ++ [' ', '{']) := by
    simp [Line.text]
  have hopening : opening? (Line.opening name).text.toList = some (.opening name) := by
    rw [opening?, expect_eq_some_iff.mpr hlist, Option.bind_some, name?_append_cons h (by decide)]
    simp
  rw [Line.read?, hopening, hlist]
  simp [expect, indent]

theorem exists_arrow {r : Relationship} (h : r.Legible) :
    ∃ a : List Char, (Line.edge r).text.toList = r.source.toList ++ ' ' :: '<' :: a ∧ '\n' ∉ a ∧
      arrowType? (' ' :: '<' :: a) = some (r.type, r.target.toList) := by
  have htarget : '\n' ∉ r.target.toList := h.target.not_mem (by decide)
  rcases h.type with htype | htype
  · refine ⟨['|', '-', '-', ' '] ++ r.target.toList, ?_, ?_, ?_⟩
    · simp [Line.text, htype, arrow?]
    · simp [htarget]
    · simp [arrowType?, expect, htype]
  · have hne : EdgeType.satisfaction ≠ EdgeType.composition := by decide
    refine ⟨['|', '.', '.', ' '] ++ r.target.toList, ?_, ?_, ?_⟩
    · simp [Line.text, htype, arrow?, hne]
    · simp [htarget]
    · simp [arrowType?, expect, htype]

/-- An edge is not mistaken for the start of an entity, even if its source is called `class`: an
arrow follows where an entity would have its name. -/
theorem opening?_eq_none {name a : List Char} (hname : IsName name) :
    opening? (name ++ ' ' :: '<' :: a) = none := by
  cases hexpect : expect ['c', 'l', 'a', 's', 's', ' '] (name ++ ' ' :: '<' :: a) with
  | none => rw [opening?, hexpect]; rfl
  | some rest =>
      have hspace : ' ' ∉ name := hname.not_mem (by decide)
      have hcut : name ++ ' ' :: '<' :: a = ['c', 'l', 'a', 's', 's'] ++ ' ' :: rest := by
        rw [expect_eq_some_iff.mp hexpect]
        rfl
      obtain ⟨-, rfl⟩ := cut_unique hcut hspace (by decide)
      rw [opening?, hexpect, Option.bind_some]
      have hnot : name? ('<' :: a) = none := by
        simp [name?, show isWord '<' = false by decide]
      rw [hnot]

theorem read?_edge {r : Relationship} (h : r.Legible) :
    Line.read? (Line.edge r).text.toList = some (.edge r) := by
  obtain ⟨a, hlist, -, harrow⟩ := exists_arrow h
  have hspace : ' ' ∉ r.source.toList := h.source.not_mem (by decide)
  have hedge : edge? (r.source.toList ++ ' ' :: '<' :: a) = some (.edge r) := by
    simp [edge?, name?_append_cons h.source (show isWord ' ' = false by decide), harrow]
  have hindent : expect indent.toList (r.source.toList ++ ' ' :: '<' :: a) = none := by
    cases hsource : r.source.toList with
    | nil => exact absurd hsource h.source.1
    | cons c cs =>
        have hc : ' ' ≠ c := fun hc => hspace (by rw [hsource, hc]; exact List.mem_cons_self)
        simp [indent, expect, hc]
  have hclosing : r.source.toList ++ ' ' :: '<' :: a ≠ ['}'] := by
    intro heq
    have hmem : ' ' ∈ ['}'] := by rw [← heq]; simp
    exact absurd hmem (by decide)
  rw [hlist, Line.read?, hindent]
  simp only [if_neg hclosing, opening?_eq_none h.source, Option.none_or, hedge]

/-- **Every line reads back.** -/
theorem Line.read?_text {l : Line} (h : l.Legible) : Line.read? l.text.toList = some l := by
  cases l with
  | opening name => exact read?_opening h
  | marker => rw [Line.text, read?_indent]; rfl
  | field f => rw [Line.text, read?_indent, member?_fieldLine h]
  | method m => rw [Line.text, read?_indent, member?_methodLine h]
  | closing => rfl
  | edge r => exact read?_edge h

/-- No line holds a line feed. -/
theorem Line.onOneLine_text {l : Line} (h : l.Legible) : OnOneLine l.text := by
  have hword : isWord '\n' = false := by decide
  have hindent : '\n' ∉ indent.toList := by decide
  cases l with
  | opening name =>
      have hname : '\n' ∉ name.toList := IsName.not_mem h hword
      simp [OnOneLine, Line.text, hname]
  | marker => exact (by decide : '\n' ∉ (indent ++ "<<Interface>>").toList)
  | field f =>
      obtain ⟨mark, hmark, hline⟩ := exists_fieldLine f
      have hne : '\n' ≠ mark := by rcases hmark with rfl | rfl <;> decide
      have hname : '\n' ∉ f.name.toList := h.name.not_mem hword
      have htype : '\n' ∉ f.type.toList := h.type
      simp [OnOneLine, Line.text, hline, hindent, hne, hname, htype]
  | method m =>
      obtain ⟨mark, hmark, hline⟩ := exists_methodLine m
      have hne : '\n' ≠ mark := by rcases hmark with rfl | rfl <;> decide
      have hname : '\n' ∉ m.name.toList := h.name.not_mem hword
      have hparams : '\n' ∉ m.params.toList := h.params
      have hreturns : '\n' ∉ returnsText m := by
        have hmem : '\n' ∉ m.returns.toList := h.returns
        unfold returnsText
        split <;> simp [hmem]
      simp [OnOneLine, Line.text, hline, hindent, hne, hname, hparams, hreturns]
  | closing => exact (by decide : '\n' ∉ "\x7d".toList)
  | edge r =>
      obtain ⟨a, hlist, ha, -⟩ := exists_arrow h
      have hsource : '\n' ∉ r.source.toList := h.source.not_mem hword
      simp [OnOneLine, hlist, hsource, ha]

/-! ## The lines that are written -/

theorem mapM_eq_ok {α β ε : Type} {f : α → Except ε β} {g : α → β} {xs : List α}
    (h : ∀ x ∈ xs, f x = .ok (g x)) : xs.mapM f = .ok (xs.map g) := by
  induction xs with
  | nil => rfl
  | cons x xs ih =>
      rw [List.mapM_cons, h x List.mem_cons_self, ih fun y hy => h y (List.mem_cons_of_mem x hy)]
      rfl

theorem mapM_edgeLine {rs : List Relationship} (h : ∀ r ∈ rs, r.Legible) :
    rs.mapM edgeLine = .ok (rs.map fun r => (Line.edge r).text) := by
  refine mapM_eq_ok fun r hr => ?_
  rcases (h r hr).type with htype | htype <;> rw [edgeLine, Line.text, htype] <;> rfl

theorem entityLines_eq (e : Entity) : entityLines e = (linesOf e).map (·.text) := by
  unfold entityLines linesOf
  simp only [List.map_append, List.map_map]
  cases e.isContract <;> rfl

theorem map_text_linesOf (es : List Entity) :
    (es.flatMap linesOf).map (·.text) = es.flatMap entityLines := by
  rw [List.map_flatMap]
  exact List.flatMap_congr fun e _ => (entityLines_eq e).symm

theorem lines_eq {g : Graph} (h : g.Legible) :
    lines g = .ok (header :: (graphLines g).map (·.text)) := by
  rw [lines, mapM_edgeLine h.relationships, graphLines, List.map_append, map_text_linesOf,
    List.map_map]
  rfl

theorem legible_of_mem_linesOf {e : Entity} (h : e.Legible) {l : Line} (hl : l ∈ linesOf e) :
    l.Legible := by
  simp only [linesOf, List.mem_append, List.mem_singleton, List.mem_map] at hl
  rcases hl with (((rfl | hmarker) | ⟨f, hf, rfl⟩) | ⟨m, hm, rfl⟩) | rfl
  · exact h.name
  · split at hmarker
    · rw [List.mem_singleton.mp hmarker]
      trivial
    · exact absurd hmarker List.not_mem_nil
  · exact h.fields f hf
  · exact h.methods m hm
  · trivial

theorem legible_of_mem_graphLines {g : Graph} (h : g.Legible) {l : Line} (hl : l ∈ graphLines g) :
    l.Legible := by
  rcases List.mem_append.mp hl with hl | hl
  · obtain ⟨e, he, hl⟩ := List.mem_flatMap.mp hl
    exact legible_of_mem_linesOf (h.entities e he) hl
  · obtain ⟨r, hr, rfl⟩ := List.mem_map.mp hl
    exact h.relationships r hr

/-- The text of a diagram splits at its line feeds into its lines. -/
theorem splitOn_text {g : Graph} (h : g.Legible) :
    ("\n".intercalate (header :: (graphLines g).map (·.text))).toList.splitOn '\n' =
      header.toList :: (graphLines g).map fun l => l.text.toList := by
  have hlines : ∀ line ∈ (header :: (graphLines g).map (·.text)).map String.toList,
      '\n' ∉ line := by
    intro line hline
    obtain ⟨text, htext, rfl⟩ := List.mem_map.mp hline
    rcases List.mem_cons.mp htext with rfl | htext
    · decide
    · obtain ⟨l, hl, rfl⟩ := List.mem_map.mp htext
      exact Line.onOneLine_text (legible_of_mem_graphLines h hl)
  rw [String.toList_intercalate]
  refine (List.splitOn_intercalate '\n' hlines (by simp)).trans ?_
  rw [List.map_cons, List.map_map]
  rfl

theorem filterMap_read? {g : Graph} (h : g.Legible) :
    ((graphLines g).map fun l => l.text.toList).filterMap Line.read? = graphLines g := by
  rw [List.filterMap_map]
  calc (graphLines g).filterMap (Line.read? ∘ fun l => l.text.toList)
      = (graphLines g).filterMap some :=
        List.filterMap_congr fun l hl => Line.read?_text (legible_of_mem_graphLines h hl)
    _ = graphLines g := List.filterMap_some

/-! ## Entering the lines again -/

theorem foldl_enter_fields (fs : List Field) (d : Draft) :
    (fs.map Line.field).foldl Draft.enter d =
      { d with current := { d.current with fields := d.current.fields ++ fs } } := by
  induction fs generalizing d with
  | nil => simp
  | cons f fs ih => simp [ih, Draft.enter, Entity.addField]

theorem foldl_enter_methods (ms : List Method) (d : Draft) :
    (ms.map Line.method).foldl Draft.enter d =
      { d with current := { d.current with methods := d.current.methods ++ ms } } := by
  induction ms generalizing d with
  | nil => simp
  | cons m ms ih => simp [ih, Draft.enter, Entity.addMethod]

theorem foldl_enter_edges (rs : List Relationship) (d : Draft) :
    (rs.map Line.edge).foldl Draft.enter d =
      { d with graph := { d.graph with relationships := d.graph.relationships ++ rs } } := by
  induction rs generalizing d with
  | nil => simp
  | cons r rs ih => simp [ih, Draft.enter]

/-- What the block of an entity shows: not what it embeds, and not whether it was declared. -/
def bare (e : Entity) : Entity := { e with embeds := [], declared := false }

theorem foldl_enter_linesOf {e : Entity} (h : e.Legible) (d : Draft) :
    ((linesOf e).foldl Draft.enter d).graph =
      { d.graph with entities := d.graph.entities ++ [bare e] } := by
  have hne : Kind.aggregate ≠ Kind.contract := by decide
  simp only [linesOf, List.foldl_append, foldl_enter_fields, foldl_enter_methods]
  rcases h.kind with hkind | hkind
  · simp [Entity.isContract, hkind, hne, Draft.enter, bare]
  · simp [Entity.isContract, hkind, Draft.enter, bare]

theorem foldl_enter_entities {es : List Entity} (h : ∀ e ∈ es, e.Legible) (d : Draft) :
    ((es.flatMap linesOf).foldl Draft.enter d).graph =
      { d.graph with entities := d.graph.entities ++ es.map bare } := by
  induction es generalizing d with
  | nil => simp
  | cons e es ih =>
      rw [List.flatMap_cons, List.foldl_append, ih fun e' he' => h e' (List.mem_cons_of_mem e he'),
        foldl_enter_linesOf (h e List.mem_cons_self)]
      simp

theorem foldl_enter_graphLines {g : Graph} (h : g.Legible) :
    ((graphLines g).foldl Draft.enter {}).graph = { g with entities := g.entities.map bare } := by
  rw [graphLines, List.foldl_append, foldl_enter_edges, foldl_enter_entities h.entities]
  simp

/-- A graph without the distinction between declared and undeclared entities. -/
def shown (g : Graph) : Graph :=
  { g with entities := g.entities.map ({ · with declared := false }) }

theorem describe_shown (g : Graph) : (shown g).describe = g.describe := by
  have hentities : (shown g).entities.map Entity.describe = g.entities.map Entity.describe := by
    rw [shown, List.map_map]
    rfl
  rw [Graph.describe, hentities]
  rfl

theorem embedSources_eq {g : Graph} (h : g.Legible) :
    embedSources { g with entities := g.entities.map bare } = shown g := by
  have hentities : ∀ e ∈ g.entities,
      { e with
        embeds := ((g.edges (some .composition)).filter (·.target = e.name)).map (·.source)
        declared := false } = { e with declared := false } := by
    intro e he
    rw [h.embeds e he]
  simp only [embedSources, shown, List.map_map]
  congr 1
  exact List.map_congr_left hentities

/-- **A diagram reads back** as the graph of which it was made. -/
theorem exists_render {g : Graph} (h : g.Legible) :
    ∃ text, render g = .ok text ∧ read text = shown g := by
  refine ⟨"\n".intercalate (header :: (graphLines g).map (·.text)), ?_, ?_⟩
  · rw [render, lines_eq h]
    rfl
  · rw [read, splitOn_text h, List.tail_cons, filterMap_read? h, foldl_enter_graphLines h,
      embedSources_eq h]

/-- **The diagram of a source text loses nothing but which entities were declared**: it is always
written, the rest of the graph can be read back from it, and with it the description.  So source
texts with equal diagrams have equal graphs up to that, and equal descriptions. -/
theorem describe_read_render :
    (∀ source, ∃ text, render (Graph.ofSource source) = .ok text ∧
      read text = shown (Graph.ofSource source) ∧
      (read text).describe = (Graph.ofSource source).describe) ∧
    ∀ source source', render (Graph.ofSource source) = render (Graph.ofSource source') →
      shown (Graph.ofSource source) = shown (Graph.ofSource source') ∧
      (Graph.ofSource source).describe = (Graph.ofSource source').describe := by
  have hreads : ∀ source, ∃ text, render (Graph.ofSource source) = .ok text ∧
      read text = shown (Graph.ofSource source) :=
    fun source => exists_render (Graph.legible_ofSource source)
  constructor
  · intro source
    obtain ⟨text, hrender, hread⟩ := hreads source
    exact ⟨text, hrender, hread, by rw [hread, describe_shown]⟩
  · intro source source' heq
    obtain ⟨text, hrender, hread⟩ := hreads source
    obtain ⟨text', hrender', hread'⟩ := hreads source'
    rw [hrender, hrender'] at heq
    injection heq with htext
    have hshown : shown (Graph.ofSource source) = shown (Graph.ofSource source') := by
      rw [← hread, ← hread', htext]
    refine ⟨hshown, ?_⟩
    rw [← describe_shown (Graph.ofSource source), hshown, describe_shown]

end TypeGraph.Diagram
