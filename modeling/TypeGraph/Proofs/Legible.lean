import TypeGraph.Proofs.EdgeModel
import TypeGraph.Proofs.Grammar

/-!
# What extracted texts can hold

The patterns capture pieces of arbitrary source text, so what is known about the texts in a graph is
what the patterns guarantee: names are runs of word characters, parameters match their parentheses,
and nothing holds a line feed.  These bounds hold in the inventory of every source text and pass
from there to its graph.
-/

namespace TypeGraph

open TypeGraph.Source TypeGraph.Text

def IsNamed (name : String) : Prop := IsName name.toList

def OnOneLine (text : String) : Prop := '\n' ∉ text.toList

/-- A field as the patterns capture it. -/
structure Field.Legible (f : Field) : Prop where
  name : IsNamed f.name
  type : OnOneLine f.type

/-- A method as the patterns capture it. -/
structure Method.Legible (m : Method) : Prop where
  name : IsNamed m.name
  oneLevel : OneLevel m.params.toList
  params : OnOneLine m.params
  returns : OnOneLine m.returns

structure Contents.Legible (c : Contents) : Prop where
  name : IsNamed c.name
  kind : c.kind = .aggregate ∨ c.kind = .contract
  embeds : ∀ e ∈ c.embeds, IsNamed e
  fields : ∀ f ∈ c.fields, f.Legible
  methods : ∀ m ∈ c.methods, m.Legible

/-- An entity as extraction builds it. -/
structure Entity.Legible (e : Entity) : Prop where
  name : IsNamed e.name
  kind : e.kind = .aggregate ∨ e.kind = .contract
  fields : ∀ f ∈ e.fields, f.Legible
  methods : ∀ m ∈ e.methods, m.Legible

structure Relationship.Legible (r : Relationship) : Prop where
  source : IsNamed r.source
  target : IsNamed r.target
  type : r.type = .composition ∨ r.type = .satisfaction

/-- A graph as extraction builds it: its texts are bounded, and what an entity embeds is what its
composition edges say. -/
structure Graph.Legible (g : Graph) : Prop where
  entities : ∀ e ∈ g.entities, e.Legible
  relationships : ∀ r ∈ g.relationships, r.Legible
  embeds : ∀ e ∈ g.entities,
    ((g.edges (some .composition)).filter (·.target = e.name)).map (·.source) = e.embeds

/-! ## Blanks around a parameter list -/

theorem exists_trim (s : List Char) :
    ∃ a b, AllBlank a ∧ AllBlank b ∧ s = a ++ (trim s ++ b) := by
  obtain ⟨a, ha, hs, -⟩ := trimStart_eq_iff.mp (rfl : trimStart s = _)
  obtain ⟨b, hb, hr, -⟩ := trimStart_eq_iff.mp (rfl : trimStart (trimStart s).reverse = _)
  refine ⟨a, b.reverse, ha, fun c hc => hb c (List.mem_reverse.mp hc), ?_⟩
  have hend := congrArg List.reverse hr
  rw [List.reverse_reverse, List.reverse_append, ← trimEnd_eq_reverse] at hend
  rw [trim, ← hend]
  exact hs

theorem Source.AllBlank.count_eq_zero {b : List Char} (h : AllBlank b) {c : Char}
    (hc : isBlank c = false) : b.count c = 0 :=
  List.count_eq_zero.mpr (h.not_mem hc)

theorem oneLevel_trim {s : List Char} (h : OneLevel s) : OneLevel (trim s) := by
  obtain ⟨a, b, ha, hb, hs⟩ := exists_trim s
  have hopen : isBlank '(' = false := by decide
  have hclose : isBlank ')' = false := by decide
  obtain ⟨hstarts, hcount⟩ := h
  constructor
  · intro p hp
    have hap : a ++ p <+: s := by
      rw [hs]
      exact (List.prefix_append_right_inj a).mpr (hp.trans (List.prefix_append _ b))
    have hbounds := hstarts (a ++ p) hap
    simp only [List.count_append, ha.count_eq_zero hopen, ha.count_eq_zero hclose] at hbounds
    omega
  · rw [hs] at hcount
    simp only [List.count_append, ha.count_eq_zero hopen, ha.count_eq_zero hclose,
      hb.count_eq_zero hopen, hb.count_eq_zero hclose] at hcount
    omega

theorem legible_methodOf {name params returns : List Char} (hname : IsName name)
    (hparams : OneLevel params) (hline : '\n' ∉ params) (hreturns : '\n' ∉ trim returns) :
    (methodOf name params returns).Legible := by
  refine ⟨?_, ?_, ?_, ?_⟩
  · rwa [IsNamed, methodOf, String.toList_ofList]
  · rw [methodOf, String.toList_ofList]
    exact oneLevel_trim hparams
  · rw [OnOneLine, methodOf, String.toList_ofList]
    exact fun hmem => hline (mem_of_mem_trim hmem)
  · rwa [OnOneLine, methodOf, String.toList_ofList]

/-! ## Lines of a body -/

theorem mem_consLine {c : Char} {ls : List (List Char)} {l : List Char} (h : l ∈ consLine c ls) :
    l ∈ ls ∨ l = [c] ∨ ∃ l' ∈ ls, l = c :: l' := by
  cases ls with
  | nil => exact Or.inr (Or.inl (List.mem_singleton.mp h))
  | cons l' ls =>
      rcases List.mem_cons.mp h with rfl | h
      · exact Or.inr (Or.inr ⟨l', List.mem_cons_self, rfl⟩)
      · exact Or.inl (List.mem_cons_of_mem l' h)

theorem not_isLineBreak_of_mem_lines {s l : List Char} (h : l ∈ lines s) :
    ∀ c ∈ l, isLineBreak c = false := by
  fun_induction lines s generalizing l with
  | case1 => exact absurd h List.not_mem_nil
  | case2 cs ih =>
      rcases List.mem_cons.mp h with rfl | h
      · simp
      · exact ih h
  | case3 c cs _ hbreak ih =>
      rcases List.mem_cons.mp h with rfl | h
      · simp
      · exact ih h
  | case4 c cs _ hbreak ih =>
      have hc : isLineBreak c = false := by simpa using hbreak
      rcases mem_consLine h with h | rfl | ⟨l', hl', rfl⟩
      · exact ih h
      · simpa using hc
      · exact List.forall_mem_cons.mpr ⟨hc, ih hl'⟩

theorem not_mem_newline_of_mem_bodyLines {body line : List Char} (h : line ∈ bodyLines body) :
    '\n' ∉ line := by
  obtain ⟨hmem, -⟩ := List.mem_filter.mp h
  obtain ⟨l, hl, rfl⟩ := List.mem_map.mp hmem
  intro hnewline
  have hbreak := not_isLineBreak_of_mem_lines hl '\n' (mem_of_mem_trim hnewline)
  exact absurd hbreak (by decide)

/-! ## Members -/

theorem isNamed_of_embedding? {line : List Char} {name : String}
    (h : embedding? line = some name) : IsNamed name := by
  simp only [embedding?, Option.ite_none_right_eq_some, Option.some.injEq] at h
  obtain ⟨⟨hne, hall⟩, rfl⟩ := h
  rw [IsNamed, String.toList_ofList]
  exact ⟨hne, List.all_eq_true.mp hall⟩

/-- The type of a field is made of characters that stand behind its name. -/
theorem mem_of_mem_fieldType? {gap text type : List Char} (h : fieldType? gap text = some type) :
    ∀ c ∈ type, c ∈ gap ∨ c ∈ text := by
  have hbefore : ∀ c ∈ text.takeWhile (· ≠ tagMark), c ∈ text :=
    fun c hc => (List.takeWhile_prefix _).subset hc
  intro c hc
  simp only [fieldType?] at h
  split at h
  · exact absurd h (by simp)
  · split at h
    · split at h
      · exact absurd h (by simp)
      · injection h with h
        exact Or.inr (hbefore c (h ▸ hc))
    · split at h
      · exact absurd h (by simp)
      · split at h
        · injection h with h
          exact Or.inr (hbefore c ((trimEnd_isPrefix _).subset (h ▸ hc)))
        · split at h
          · obtain ⟨last, hlast, rfl⟩ := Option.map_eq_some_iff.mp h
            rw [List.mem_singleton.mp hc]
            exact Or.inl (List.mem_of_getLast? hlast)
          · exact absurd h (by simp)

theorem legible_of_field? {line : List Char} (hline : '\n' ∉ line) {f : Field}
    (h : field? line = some f) : f.Legible := by
  simp only [field?, Option.bind_eq_bind, Option.bind_eq_some_iff, Prod.exists, Option.pure_def,
    Option.some.injEq, name?_eq_some_iff] at h
  obtain ⟨name, rest, ⟨hname, rfl, -⟩, type, htype, rfl⟩ := h
  refine ⟨by rwa [IsNamed, String.toList_ofList], ?_⟩
  rw [OnOneLine, String.toList_ofList]
  intro hmem
  refine hline (List.mem_append_right name ?_)
  rcases mem_of_mem_fieldType? htype '\n' hmem with hmem | hmem
  · exact (List.takeWhile_prefix _).subset hmem
  · exact (List.dropWhile_suffix _).subset hmem

theorem legible_of_method? {line : List Char} (hline : '\n' ∉ line) {m : Method}
    (h : method? line = some m) : m.Legible := by
  simp only [method?, Option.bind_eq_bind, Option.bind_eq_some_iff, Prod.exists, Option.pure_def,
    Option.some.injEq, name?_eq_some_iff, parameters?_eq_some_iff] at h
  obtain ⟨name, rest, ⟨hname, rfl, -⟩, params, returns, ⟨rfl, hparams, hnewline⟩, rfl⟩ := h
  refine legible_methodOf hname hparams hnewline fun hmem => hline ?_
  have hreturns := mem_of_mem_trim hmem
  simp [hreturns]

/-! ## Inventories -/

theorem Source.Declaration.legible_contents {code : List Char} {d : Declaration}
    (h : d ∈ declarations code) : d.contents.Legible := by
  obtain ⟨t, rest, hread⟩ := Pattern.exists_read_of_mem_findAll h
  obtain ⟨_, -, hname, -, -, -⟩ := Declaration.read?_eq_some_iff.mp hread
  rename_i body keyword
  have hother : ∀ line ∈ otherLines body, '\n' ∉ line :=
    fun line hline => not_mem_newline_of_mem_bodyLines (List.mem_filter.mp hline).1
  refine ⟨?_, ?_, ?_, ?_, ?_⟩
  · rwa [IsNamed, Declaration.contents, String.toList_ofList]
  · cases keyword with
    | struct => exact Or.inl rfl
    | interface => exact Or.inr rfl
  · intro e he
    obtain ⟨line, -, hline⟩ := List.mem_filterMap.mp he
    exact isNamed_of_embedding? hline
  · intro f hf
    cases keyword with
    | struct =>
        obtain ⟨line, hline, hfield⟩ := List.mem_filterMap.mp hf
        exact legible_of_field? (hother line hline) hfield
    | interface => exact absurd hf List.not_mem_nil
  · intro m hm
    cases keyword with
    | struct => exact absurd hm List.not_mem_nil
    | interface =>
        obtain ⟨line, hline, hmethod⟩ := List.mem_filterMap.mp hm
        exact legible_of_method? (hother line hline) hmethod

theorem Source.ReceiverMethod.legible_received {code : List Char} {m : ReceiverMethod}
    (h : m ∈ receiverMethods code) : IsNamed m.received.1 ∧ m.received.2.Legible := by
  obtain ⟨t, rest, hread⟩ := Pattern.exists_read_of_mem_findAll h
  obtain ⟨_, -, -, -, -, hstar, hreceiver, -, -, hname, -, hparams, hline, -, hresults⟩ :=
    ReceiverMethod.read?_eq_some_iff.mp hread
  rename_i star receiver _ _ _ _ _ _
  refine ⟨?_, legible_methodOf hname hparams hline hresults⟩
  rw [IsNamed, ReceiverMethod.received, stripPointer, String.toList_ofList, String.toList_ofList]
  rcases hstar with rfl | rfl
  · rw [List.nil_append, dropStar_of_isName hreceiver]
    exact hreceiver
  · exact hreceiver

/-! ## Graphs -/

structure Inventory.Legible (v : Inventory) : Prop where
  declared : ∀ c ∈ v.declared, c.Legible
  received : ∀ p ∈ v.received, IsNamed p.1 ∧ p.2.Legible

theorem Inventory.legible_ofSource (source : String) : (Inventory.ofSource source).Legible := by
  constructor
  · intro c hc
    obtain ⟨d, hd, rfl⟩ := List.mem_map.mp hc
    exact Declaration.legible_contents hd
  · intro p hp
    obtain ⟨m, hm, rfl⟩ := List.mem_map.mp hp
    exact ReceiverMethod.legible_received hm

section Legible

variable {v : Inventory} (h : v.Legible)

include h

theorem Inventory.Legible.isNamed {name : String} (hname : name ∈ v.names) : IsNamed name := by
  rcases Inventory.mem_names.mp hname with ⟨c, hc, rfl | he⟩ | ⟨p, hp, rfl⟩
  · exact (h.declared c hc).name
  · exact (h.declared c hc).embeds name he
  · exact (h.received p hp).1

theorem Inventory.Legible.declarationsOf {name : String} :
    ∀ c ∈ v.declarationsOf name, c.Legible :=
  fun c hc => h.declared c (List.mem_filter.mp hc).1

theorem Inventory.Legible.entity {name : String} (hname : name ∈ v.names) :
    (v.entity name).Legible := by
  refine ⟨h.isNamed hname, ?_, ?_, ?_⟩
  · have hkind : (v.entity name).kind =
        ((v.declarationsOf name).head?.map (·.kind)).getD .aggregate := rfl
    rw [hkind]
    cases hhead : (v.declarationsOf name).head? with
    | none => exact Or.inl rfl
    | some c => exact (h.declarationsOf c (List.mem_of_mem_head? hhead)).kind
  · intro f hf
    obtain ⟨c, hc, hf⟩ := List.mem_flatMap.mp hf
    exact (h.declarationsOf c hc).fields f hf
  · intro m hm
    rcases List.mem_append.mp hm with hm | hm
    · obtain ⟨c, hc, hm⟩ := List.mem_flatMap.mp hm
      exact (h.declarationsOf c hc).methods m hm
    · obtain ⟨p, hp, rfl⟩ := List.mem_map.mp hm
      exact (h.received p (List.mem_filter.mp hp).1).2

theorem Inventory.Legible.graph : v.graph.Legible := by
  refine ⟨?_, ?_, ?_⟩
  · intro e he
    obtain ⟨name, hname, rfl⟩ := List.mem_map.mp he
    exact h.entity hname
  · intro r hr
    obtain ⟨hsource, htarget⟩ := Inventory.endpoints_mem_names hr
    refine ⟨h.isNamed hsource, h.isNamed htarget, ?_⟩
    rcases List.mem_append.mp hr with hr | hr
    · exact Or.inl (Inventory.type_of_mem_compositions hr)
    · exact Or.inr (type_of_mem_satisfactionsOf hr)
  · intro e he
    obtain ⟨name, -, rfl⟩ := List.mem_map.mp he
    rw [Inventory.edges_composition]
    exact v.sources_compositions name

end Legible

/-- **Whatever the source text, the texts of its graph are bounded.** -/
theorem Graph.legible_ofSource (source : String) : (Graph.ofSource source).Legible := by
  rw [Graph.ofSource_eq_graph]
  exact (Inventory.legible_ofSource source).graph

end TypeGraph
