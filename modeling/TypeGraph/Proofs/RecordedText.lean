import TypeGraph.Proofs.DiagramBlocks

/-!
# Texts by the place they come from

That the texts of a graph are legible holds wherever they were found.  More is known of those that
come from the body of a declaration: a body ends at the first closing brace and is cut at line
breaks of every kind, so that its members hold neither.  The texts of a method with a receiver lie
outside of all bodies, and only line feeds are kept out of them.  Parameters and results are always
recorded without the blanks around them.
-/

namespace TypeGraph

open TypeGraph.Source TypeGraph.Text

def InBody (text : String) : Prop := ∀ c ∈ text.toList, isLineBreak c = false ∧ c ≠ '}'

structure Method.Recorded (m : Method) : Prop extends m.Legible where
  trimmedParams : Trimmed m.params.toList
  trimmedReturns : Trimmed m.returns.toList

/-- The methods that the bodies of a type ask for, in order. -/
def askedMethods (code : List Char) (name : String) : List Method :=
  ((declarations code).filter (·.name = name)).flatMap fun d =>
    (members d.kind d.body).filterMap Member.method?

/-- The methods that a type receives, in order. -/
def receivedMethods (code : List Char) (name : String) : List Method :=
  ((receiverMethods code).filter (stripPointer ·.receiver = name)).map (·.method)

/-- An entity as it is recorded from a text without comments. -/
structure Entity.Recorded (code : List Char) (e : Entity) : Prop where
  name : IsNamed e.name
  embeds : ∀ name ∈ e.embeds, IsNamed name
  fields : ∀ f ∈ e.fields, IsNamed f.name ∧ InBody f.type
  methods : ∀ m ∈ e.methods, m.Recorded
  origin : e.methods = askedMethods code e.name ++ receivedMethods code e.name
  asked : ∀ m ∈ askedMethods code e.name, InBody m.params ∧ InBody m.returns

/-! ## Texts of a body -/

theorem inBody_of_mem_bodyLines {code : List Char} {d : Declaration} (hd : d ∈ declarations code)
    {line : List Char} (hline : line ∈ bodyLines d.body) {text : String}
    (htext : ∀ c ∈ text.toList, c ∈ line) : InBody text := by
  intro c hc
  constructor
  · obtain ⟨hmem, -⟩ := List.mem_filter.mp hline
    obtain ⟨l, hl, rfl⟩ := List.mem_map.mp hmem
    exact not_isLineBreak_of_mem_lines hl c (mem_of_mem_trim (htext c hc))
  · rintro rfl
    exact not_mem_closing_bodyLines hd hline (htext _ hc)

theorem Graph.inBody_type {source : String} {e : Entity}
    (he : e ∈ (Graph.ofSource source).entities) {f : Field} (hf : f ∈ e.fields) :
    InBody f.type := by
  obtain ⟨d, hd, -, line, hline, -, hfield⟩ := Graph.exists_mem_fields_iff.mp ⟨e, he, hf⟩
  exact inBody_of_mem_bodyLines hd hline (mem_of_field? hfield)

theorem exists_line_of_mem_askedMethods {code : List Char} {name : String} {m : Method}
    (h : m ∈ askedMethods code name) :
    ∃ d ∈ declarations code, ∃ line ∈ bodyLines d.body, Source.method? line = some m := by
  obtain ⟨d, hd, hm⟩ := List.mem_flatMap.mp h
  rw [methods_members] at hm
  split at hm
  · exact absurd hm List.not_mem_nil
  · obtain ⟨line, hline, hmethod⟩ := List.mem_filterMap.mp hm
    exact ⟨d, (List.mem_filter.mp hd).1, line, (List.mem_filter.mp hline).1, hmethod⟩

theorem inBody_of_mem_askedMethods {code : List Char} {name : String} {m : Method}
    (h : m ∈ askedMethods code name) : InBody m.params ∧ InBody m.returns := by
  obtain ⟨d, hd, line, hline, hmethod⟩ := exists_line_of_mem_askedMethods h
  have hmem := mem_of_method? hmethod
  exact ⟨inBody_of_mem_bodyLines hd hline fun c hc => hmem c (List.mem_append_left _ hc),
    inBody_of_mem_bodyLines hd hline fun c hc => hmem c (List.mem_append_right _ hc)⟩

/-! ## Methods -/

theorem exists_methodOf_of_asked {code : List Char} {name : String} {m : Method}
    (h : m ∈ askedMethods code name) : ∃ n params returns, m = methodOf n params returns := by
  obtain ⟨-, -, line, -, hmethod⟩ := exists_line_of_mem_askedMethods h
  simp only [Source.method?, Option.bind_eq_bind, Option.bind_eq_some_iff, Prod.exists,
    Option.pure_def, Option.some.injEq] at hmethod
  obtain ⟨n, -, -, params, returns, -, rfl⟩ := hmethod
  exact ⟨n, params, returns, rfl⟩

theorem exists_methodOf_of_received {code : List Char} {name : String} {m : Method}
    (h : m ∈ receivedMethods code name) : ∃ n params returns, m = methodOf n params returns := by
  obtain ⟨r, hr, rfl⟩ := List.mem_map.mp h
  obtain ⟨t, rest, hread⟩ := Pattern.exists_read_of_mem_findAll (List.mem_filter.mp hr).1
  cases ReceiverMethod.read?_eq_some_iff.mp hread
  exact ⟨_, _, _, rfl⟩

section Recorded

variable {source : String} {e : Entity} (he : e ∈ (Graph.ofSource source).entities)

include he

theorem Graph.methods_origin :
    e.methods = askedMethods (stripComments source.toList) e.name ++
      receivedMethods (stripComments source.toList) e.name := by
  rw [Graph.entities_ofSource] at he
  obtain ⟨name, -, rfl⟩ := List.mem_map.mp he
  show ((Inventory.ofSource source).declarationsOf name).flatMap (·.methods) ++
    ((Inventory.ofSource source).received.filter (·.1 = name)).map (·.2) = _
  rw [Inventory.declarationsOf_ofSource, List.flatMap_map]
  simp [askedMethods, receivedMethods, Declaration.methods_members_eq, Inventory.ofSource,
    Inventory.entity, List.filter_map, Function.comp_def, ReceiverMethod.received]

theorem Graph.recorded_method {m : Method} (hm : m ∈ e.methods) : m.Recorded := by
  have hlegible := ((Graph.legible_ofSource source).entities e he).methods m hm
  have hrecord : ∃ n params returns, m = methodOf n params returns := by
    rw [Graph.methods_origin he] at hm
    rcases List.mem_append.mp hm with hm | hm
    · exact exists_methodOf_of_asked hm
    · exact exists_methodOf_of_received hm
  refine ⟨hlegible, ?_, ?_⟩
  · obtain ⟨n, params, returns, rfl⟩ := hrecord
    rw [methodOf, String.toList_ofList]
    exact trimmed_trim params
  · obtain ⟨n, params, returns, rfl⟩ := hrecord
    rw [methodOf, String.toList_ofList]
    exact trimmed_trim returns

/-- **Whatever the source text, its entities are recorded** with the texts that their places
allow. -/
theorem Graph.recorded_entity : e.Recorded (stripComments source.toList) := by
  have hlegible := (Graph.legible_ofSource source).entities e he
  refine ⟨hlegible.name, ?_, ?_, fun m => Graph.recorded_method he, Graph.methods_origin he,
    fun m => inBody_of_mem_askedMethods⟩
  · intro name hname
    rw [Graph.entities_ofSource] at he
    obtain ⟨owner, -, rfl⟩ := List.mem_map.mp he
    obtain ⟨c, hc, -, hname⟩ := Inventory.mem_embeds_entity.mp hname
    exact ((Inventory.legible_ofSource source).declared c hc).embeds name hname
  · intro f hf
    exact ⟨(hlegible.fields f hf).name, Graph.inBody_type he hf⟩

end Recorded

end TypeGraph
