import TypeGraph.Proofs.Inspection

/-!
# The lines of a diagram, told apart

A line of a diagram is the header, opens or closes a block, marks a contract, shows a member or
shows an edge, and the line alone tells which of them it is.  The names at the ends of an edge are
names of entities; these are all different, so each of them opens a block in one place only.

Together with what is known of the recorded texts and of an inspection, this says what the texts
taken from an arbitrary source text can do: they never reach beyond the place they are written to.
-/

namespace TypeGraph.Diagram

open TypeGraph.Source TypeGraph.Text

/-! ## Kinds of lines -/

inductive LineKind where
  | header
  | opening
  | marker
  | member
  | closing
  | edge
deriving DecidableEq, Repr

def openingLine (name : String) : String := "class " ++ name ++ " \x7b"

/-- The mark in front of a name is a plus if the name starts with an upper-case character, and a
minus if it does not. -/
structure Marks (mark name : String) : Prop where
  either : mark = "+" ∨ mark = "-"
  plus_iff : mark = "+" ↔ ∃ c ∈ name.toList.head?, isUppercase c = true

/-- A line of each kind, among the lines of a diagram. -/
inductive Written (lines : List String) : LineKind → String → Prop
  | header : Written lines .header header
  | opening {name : String} (hname : IsNamed name) : Written lines .opening (openingLine name)
  | marker : Written lines .marker (indent ++ "<<Interface>>")
  | field {mark : String} {f : Field} (hmark : Marks mark f.name) (hf : f.Legible) :
      Written lines .member (indent ++ (mark ++ f.name ++ ": " ++ f.type))
  | method {mark returns : String} {m : Method} (hmark : Marks mark m.name) (hm : m.Legible)
      (hreturns : returns = if m.returns = "" then "" else " " ++ m.returns) :
      Written lines .member (indent ++ (mark ++ m.name ++ "(" ++ m.params ++ ")" ++ returns))
  | closing : Written lines .closing "\x7d"
  | edge {arrow : String} {r : Relationship} (hr : r.Legible) (harrow : arrow? r.type = some arrow)
      (hsource : lines.count (openingLine r.source) = 1)
      (htarget : lines.count (openingLine r.target) = 1) :
      Written lines .edge (r.source ++ " " ++ arrow ++ " " ++ r.target)

def Line.kind : Line → LineKind
  | .opening _ => .opening
  | .marker => .marker
  | .field _ => .member
  | .method _ => .member
  | .closing => .closing
  | .edge _ => .edge

theorem isExported_iff {name : String} :
    isExported name = true ↔ ∃ c ∈ name.toList.head?, isUppercase c = true := by
  unfold isExported
  cases name.toList with
  | nil => simp
  | cons c cs => simp

theorem marks_iff {mark name : String} : Marks mark name ↔ mark = visibility name := by
  have hne : "-" ≠ "+" := by decide
  unfold visibility
  constructor
  · rintro ⟨heither, hplus⟩
    rw [← isExported_iff] at hplus
    rcases heither with rfl | rfl
    · rw [if_pos (hplus.mp rfl)]
    · rw [if_neg fun hexported => hne (hplus.mpr hexported)]
  · rintro rfl
    split
    · rename_i hexported
      exact ⟨Or.inl rfl, fun _ => isExported_iff.mp hexported, fun _ => rfl⟩
    · rename_i hexported
      exact ⟨Or.inr rfl, fun heq => absurd heq hne,
        fun hupper => absurd (isExported_iff.mpr hupper) hexported⟩

theorem methodLine_eq (m : Method) :
    methodLine m = visibility m.name ++ m.name ++ "(" ++ m.params ++ ")" ++
      if m.returns = "" then "" else " " ++ m.returns := by
  unfold methodLine
  split
  · rw [String.append_empty]
  · exact String.append_assoc

/-! ## A line has one kind -/

theorem Written.header_or_line {lines : List String} {kind : LineKind} {line : String}
    (h : Written lines kind line) :
    (kind = .header ∧ line = Diagram.header) ∨
      ∃ l : Line, l.Legible ∧ line = l.text ∧ kind = l.kind := by
  cases h with
  | header => exact Or.inl ⟨rfl, rfl⟩
  | opening hname => exact Or.inr ⟨.opening _, hname, rfl, rfl⟩
  | marker => exact Or.inr ⟨.marker, trivial, rfl, rfl⟩
  | field hmark hf =>
      rw [marks_iff.mp hmark]
      exact Or.inr ⟨.field _, hf, rfl, rfl⟩
  | method hmark hm hreturns =>
      rw [marks_iff.mp hmark, hreturns, ← methodLine_eq]
      exact Or.inr ⟨.method _, hm, rfl, rfl⟩
  | closing => exact Or.inr ⟨.closing, trivial, rfl, rfl⟩
  | @edge arrow r hr harrow hsource htarget =>
      refine Or.inr ⟨.edge r, hr, ?_, rfl⟩
      rw [Line.text, harrow]
      rfl

/-- A line that is read back is not the header, and has the kind of what is read. -/
theorem Written.unique {lines : List String} {kind kind' : LineKind} {line : String}
    (h : Written lines kind line) (h' : Written lines kind' line) : kind = kind' := by
  have hheader : Line.read? Diagram.header.toList = none := by decide
  rcases h.header_or_line with ⟨rfl, rfl⟩ | ⟨l, hl, rfl, rfl⟩
  · rcases h'.header_or_line with ⟨rfl, -⟩ | ⟨l', hl', htext, -⟩
    · rfl
    · rw [htext, Line.read?_text hl'] at hheader
      cases hheader
  · rcases h'.header_or_line with ⟨-, htext⟩ | ⟨l', hl', htext, rfl⟩
    · rw [← htext, Line.read?_text hl] at hheader
      cases hheader
    · have hread := Line.read?_text hl
      rw [htext, Line.read?_text hl'] at hread
      injection hread with hlines
      rw [hlines]

/-! ## Blocks that a name opens -/

theorem openingLine_inj {name name' : String} :
    openingLine name = openingLine name' ↔ name = name' := by
  simp [openingLine]

theorem head?_openingLine (name : String) : (openingLine name).toList.head? = some 'c' := by
  simp [openingLine]

theorem openingLine_not_mem_memberLines (name : String) (e : Entity) :
    openingLine name ∉ memberLines e := by
  have hindent : ∀ text, openingLine name ≠ indent ++ text := by
    intro text heq
    have hhead := head?_openingLine name
    rw [heq] at hhead
    simp [indent] at hhead
  intro hmem
  rcases mem_memberLines hmem with heq | ⟨f, -, heq⟩ | ⟨m, -, heq⟩
  all_goals exact hindent _ heq

theorem count_entityLines (name : String) (e : Entity) :
    (entityLines e).count (openingLine name) = if e.name = name then 1 else 0 := by
  have hmembers := List.count_eq_zero.mpr (openingLine_not_mem_memberLines name e)
  have hclosing : ["\x7d"].count (openingLine name) = 0 := by
    refine List.count_eq_zero.mpr fun hmem => ?_
    have hhead := head?_openingLine name
    rw [List.mem_singleton.mp hmem] at hhead
    exact absurd hhead (by decide)
  rw [entityLines_eq_memberLines, ← openingLine, List.count_cons, List.count_append, hmembers,
    hclosing]
  by_cases hname : e.name = name
  · simp [hname]
  · simp [hname, openingLine_inj]

theorem count_entities (name : String) (es : List Entity) :
    (es.flatMap entityLines).count (openingLine name) = (es.map (·.name)).count name := by
  induction es with
  | nil => rfl
  | cons e es ih =>
      rw [List.flatMap_cons, List.count_append, ih, count_entityLines, List.map_cons,
        List.count_cons, Nat.add_comm]
      simp

section Source

variable {source : String}

def drawn (source : String) : List String :=
  header :: (graphLines (Graph.ofSource source)).map (·.text)

theorem lines_ofSource (source : String) : lines (Graph.ofSource source) = .ok (drawn source) :=
  lines_eq (Graph.legible_ofSource source)

theorem count_openingLine {name : String} (h : name ∈ (Inventory.ofSource source).names) :
    (drawn source).count (openingLine name) = 1 := by
  have hlegible := Graph.legible_ofSource source
  have hedges : ((Graph.ofSource source).relationships.map fun r => (Line.edge r).text).count
      (openingLine name) = 0 := by
    refine List.count_eq_zero.mpr fun hmem => ?_
    obtain ⟨r, hr, heq⟩ := List.mem_map.mp hmem
    have hbraces := braces_eq_nil_iff.mp (braces_edge (hlegible.relationships r hr))
    rw [heq] at hbraces
    exact hbraces.1 (by simp [openingLine])
  have hheader : header ≠ openingLine name := by
    intro heq
    have hmem : '{' ∈ header.toList := by
      rw [heq]
      simp [openingLine]
    exact absurd hmem (by decide)
  have hnames : (Graph.ofSource source).entities.map (·.name) = (Inventory.ofSource source).names :=
    by rw [Graph.entities_ofSource, Inventory.map_name_entities]
  rw [drawn, List.count_cons_of_ne hheader, graphLines, List.map_append, map_text_linesOf,
    List.count_append, count_entities, hnames, List.map_map, Function.comp_def, hedges]
  exact List.count_eq_one_of_mem (Inventory.nodup_names _) h

theorem mem_relationships_of_edge {g : Graph} {r : Relationship} (h : .edge r ∈ graphLines g) :
    r ∈ g.relationships := by
  rcases List.mem_append.mp h with h | h
  · obtain ⟨e, -, h⟩ := List.mem_flatMap.mp h
    cases hkind : e.isContract <;> simp [linesOf, hkind] at h
  · simpa using h

/-- Every line of a diagram is written as its kind asks for. -/
theorem written_line {l : Line} (hl : l ∈ graphLines (Graph.ofSource source)) :
    Written (drawn source) l.kind l.text := by
  have hlegible := legible_of_mem_graphLines (Graph.legible_ofSource source) hl
  cases l with
  | opening name => exact .opening hlegible
  | marker => exact .marker
  | field f => exact .field (marks_iff.mpr rfl) hlegible
  | method m =>
      rw [Line.text, methodLine_eq]
      exact .method (marks_iff.mpr rfl) hlegible rfl
  | closing => exact .closing
  | edge r =>
      have hr : r ∈ (Inventory.ofSource source).graph.relationships := by
        rw [← Graph.ofSource_eq_graph]
        exact mem_relationships_of_edge hl
      obtain ⟨hsource, htarget⟩ := Inventory.endpoints_mem_names hr
      have harrow : ∃ arrow, arrow? r.type = some arrow := by
        rcases Relationship.Legible.type hlegible with htype | htype <;> rw [htype] <;>
          exact ⟨_, rfl⟩
      obtain ⟨arrow, harrow⟩ := harrow
      rw [Line.text, harrow]
      exact .edge hlegible harrow (count_openingLine hsource) (count_openingLine htarget)

theorem existsUnique_kind {line : String} (hline : line ∈ drawn source) :
    ∃! kind, Written (drawn source) kind line := by
  rcases List.mem_cons.mp hline with rfl | hline
  · exact ⟨.header, .header, fun kind hkind => hkind.unique .header⟩
  · obtain ⟨l, hl, rfl⟩ := List.mem_map.mp hline
    exact ⟨l.kind, written_line hl, fun kind hkind => hkind.unique (written_line hl)⟩

end Source

end TypeGraph.Diagram

namespace TypeGraph

open TypeGraph.Source TypeGraph.Text TypeGraph.Command TypeGraph.Diagram

/-- **What the texts of an arbitrary source text can do.**  Names are runs of word characters
wherever they are recorded.  The members of a body have no line breaks and no closing braces, and
the parameters and results of all methods lose the blanks around them, balance their parentheses and
lie on one line.  So no text of an inspection has an opening bracket, and an inspection shows them
all as they are; and every line of the diagram has one kind, with both ends of an edge opening one
block each. -/
theorem Graph.texts_ofSource (source : String) :
    let g := Graph.ofSource source
    (∀ e ∈ g.entities, e.Recorded (stripComments source.toList)) ∧
    (∀ r ∈ g.relationships, IsNamed r.source ∧ IsNamed r.target) ∧
    (∀ text ∈ inspected g, '[' ∉ text.toList ∧ Console.showMarkup text = .ok text) ∧
    (∀ (world : World) (a : Arguments) (settings : Settings) (level : Nat),
      resolveSettings world (a.option? "config") none false = .ok (settings, level) →
      readSource world a.positional.head? = .ok source →
      inspect world a =
        let o := ({} : Outcome).log level ((Service.ofSettings settings).extract source).2
        match Service.refusal? source with
        | some kind => o.refuse kind.message
        | none => o.print (overview g)) ∧
    ∃ lines text, Diagram.lines g = .ok lines ∧ Diagram.render g = .ok text ∧
      text.toList.splitOn '\n' = lines.map String.toList ∧
      ∀ line ∈ lines, ∃! kind, Written lines kind line := by
  intro g
  have hlegible : g.Legible := Graph.legible_ofSource source
  refine ⟨?_, ?_, ?_, ?_, ?_⟩
  · exact fun e he => Graph.recorded_entity he
  · exact fun r hr => ⟨(hlegible.relationships r hr).source, (hlegible.relationships r hr).target⟩
  · intro text htext
    have hopen := (inert_inspected htext).no_open
    exact ⟨hopen, Console.showMarkup_of_no_open hopen⟩
  · exact fun world a settings level => inspect_of_source
  · obtain ⟨text, htext, -⟩ := exists_render hlegible
    refine ⟨_, text, lines_ofSource source, htext, ?_, fun line => existsUnique_kind⟩
    rw [text_of_render hlegible htext, splitOn_text hlegible, drawn, List.map_cons, List.map_map]
    rfl

/-- Brackets in the type of a field are recorded and do not reach an inspection. -/
theorem Graph.texts_ofSource_bracketed :
    let source := "type Box struct \x7b\n\ttags [bold]string\n\x7d\n"
    let world : World := { stdin := source, server := fun _ => .failure "" }
    resolveSettings world none none false = .ok ({}, 30) ∧
      readSource world none = .ok source ∧
      (Graph.ofSource source).entities =
        [{ name := "Box", fields := [⟨"tags", "[bold]string"⟩], declared := true }] ∧
      (inspect world {}).stdout = overview (Graph.ofSource source) := by
  intro source world
  have hsettings : resolveSettings world none none false = .ok ({}, 30) := by rfl
  have hsource : readSource world none = .ok source := by
    have hlines : String.ofList (unifyNewlines source.toList) = source := by decide +kernel
    show Except.ok (String.ofList (unifyNewlines source.toList)) = _
    rw [hlines]
  have hrefusal : Service.refusal? source = none := by decide +kernel
  refine ⟨hsettings, hsource, by decide +kernel, ?_⟩
  obtain ⟨-, -, -, hinspect, -⟩ := Graph.texts_ofSource source
  rw [hinspect world {} {} 30 hsettings hsource]
  simp only [hrefusal, Outcome.print, Outcome.log, String.empty_append]

end TypeGraph
