import TypeGraph.Proofs.EntityModel

/-!
# The edges of a source text

Composition edges come from the bodies, each at its first place; satisfaction edges follow them,
computed from the finished records.  The first part is tied to the embeds of the records by the
inventory, from which both are read: an edge `e → o` is there exactly when `o` embeds `e`, and the
edges into one type list its embeds in their order.
-/

namespace TypeGraph

open TypeGraph.Source

/-! ## Edges met on the way -/

theorem Graph.relationships_declare (g : Graph) (name : String) (kind : Kind) :
    (g.declare name kind).relationships = g.relationships :=
  Graph.relationships_ensure g name

theorem Graph.relationships_foldl_addDeclaration (ds : List Declaration) (g : Graph) :
    (ds.foldl Graph.addDeclaration g).relationships =
      ((ds.map (·.contents)).flatMap fun c =>
        c.embeds.map (⟨·, c.name, .composition⟩)).foldl addNew g.relationships := by
  induction ds generalizing g with
  | nil => rfl
  | cons d ds ih =>
      rw [List.foldl_cons, ih, Graph.addDeclaration, Graph.addBody,
        Graph.relationships_foldl_addMember, embedded_members, Graph.relationships_declare,
        List.map_cons, List.flatMap_cons, List.foldl_append]
      rfl

theorem Graph.relationships_collected (source : String) :
    (Graph.collected source).relationships = (Inventory.ofSource source).compositions := by
  rw [Graph.collected, Graph.addReceivers, Graph.relationships_foldl_addReceiver,
    Graph.addDeclarations, Graph.relationships_foldl_addDeclaration]
  exact foldl_addNew_nil _

/-! ## Edges inferred at the end -/

theorem satisfies_iff {provider contract : Entity} :
    provider.satisfies contract = true ↔
      ∀ m ∈ contract.methods, ∃ p ∈ provider.methods, p.name = m.name := by
  simp [Entity.satisfies, Entity.methodNames]

theorem satisfactions_of_contract (contract : Entity) (aggregates : List Entity) :
    (if contract.methods = [] then []
      else (aggregates.filter (·.satisfies contract)).map fun a =>
        (⟨contract.name, a.name, .satisfaction⟩ : Relationship)) =
      ((aggregates.map fun a => (contract, a)).filter fun p => Provides p.2 p.1).map fun p =>
        ⟨p.1.name, p.2.name, .satisfaction⟩ := by
  rw [List.filter_map, List.map_map]
  by_cases h : contract.methods = []
  · rw [if_pos h]
    simp [Provides, h]
  · rw [if_neg h]
    have hfilter : aggregates.filter (·.satisfies contract) =
        aggregates.filter ((fun p : Entity × Entity => decide (Provides p.2 p.1)) ∘
          fun a => (contract, a)) := by
      apply List.filter_congr
      intro a _
      rw [Bool.eq_iff_iff, satisfies_iff]
      simp [Provides, h]
    rw [hfilter]
    rfl

theorem Graph.satisfactions_eq (g : Graph) : g.satisfactions = satisfactionsOf g.entities := by
  unfold Graph.satisfactions satisfactionsOf Graph.ofKind
  generalize g.entities.filter (·.kind = .aggregate) = aggregates
  induction g.entities.filter (·.kind = .contract) with
  | nil => rfl
  | cons contract contracts ih =>
      rw [List.flatMap_cons, List.product_cons, List.filter_append, List.map_append, ← ih,
        satisfactions_of_contract]

theorem Graph.relationships_infer (g : Graph) :
    g.infer.relationships = (satisfactionsOf g.entities).foldl addNew g.relationships := by
  rw [Graph.infer, Graph.satisfactions_eq]
  generalize satisfactionsOf g.entities = rs
  induction rs generalizing g with
  | nil => rfl
  | cons r rs ih => rw [List.foldl_cons, ih, Graph.relationships_relate, List.foldl_cons]

theorem mem_satisfactionsOf {entities : List Entity} {r : Relationship} :
    r ∈ satisfactionsOf entities ↔
      ∃ i ∈ entities, ∃ a ∈ entities, i.kind = .contract ∧ a.kind = .aggregate ∧ Provides a i ∧
        r = ⟨i.name, a.name, .satisfaction⟩ := by
  unfold satisfactionsOf
  rw [List.mem_map]
  constructor
  · rintro ⟨⟨i, a⟩, hp, rfl⟩
    obtain ⟨hmem, hprovides⟩ := List.mem_filter.mp hp
    obtain ⟨hi, ha⟩ := List.pair_mem_product.mp hmem
    obtain ⟨hi, hik⟩ := List.mem_filter.mp hi
    obtain ⟨ha, hak⟩ := List.mem_filter.mp ha
    exact ⟨i, hi, a, ha, by simpa using hik, by simpa using hak, by simpa using hprovides, rfl⟩
  · rintro ⟨i, hi, a, ha, hik, hak, hprovides, rfl⟩
    refine ⟨(i, a), List.mem_filter.mpr ⟨List.pair_mem_product.mpr ⟨?_, ?_⟩, ?_⟩, rfl⟩
    · exact List.mem_filter.mpr ⟨hi, by simpa using hik⟩
    · exact List.mem_filter.mpr ⟨ha, by simpa using hak⟩
    · simpa using hprovides

/-- Names are distinct, so edges with equal endpoints come from the same two entities. -/
theorem nodup_satisfactionsOf {entities : List Entity} (hnd : (entities.map (·.name)).Nodup) :
    (satisfactionsOf entities).Nodup := by
  have hentities : entities.Nodup := hnd.of_map
  unfold satisfactionsOf
  apply List.Nodup.map_on
  · rintro ⟨i, a⟩ hp ⟨i', a'⟩ hp' heq
    obtain ⟨hi, ha⟩ := List.pair_mem_product.mp (List.mem_filter.mp hp).1
    obtain ⟨hi', ha'⟩ := List.pair_mem_product.mp (List.mem_filter.mp hp').1
    injection heq with hsource htarget
    have hii : i = i' := List.inj_on_of_nodup_map hnd (List.mem_filter.mp hi).1
      (List.mem_filter.mp hi').1 hsource
    have haa : a = a' := List.inj_on_of_nodup_map hnd (List.mem_filter.mp ha).1
      (List.mem_filter.mp ha').1 htarget
    rw [hii, haa]
  · exact ((hentities.filter _).product (hentities.filter _)).filter _

/-! ## The edges of an inventory -/

theorem Inventory.mem_names {v : Inventory} {name : String} :
    name ∈ v.names ↔
      (∃ c ∈ v.declared, name = c.name ∨ name ∈ c.embeds) ∨ ∃ m ∈ v.received, m.1 = name := by
  simp [Inventory.names]

theorem Inventory.mem_compositions {v : Inventory} {r : Relationship} :
    r ∈ v.compositions ↔
      ∃ c ∈ v.declared, ∃ e ∈ c.embeds, r = ⟨e, c.name, .composition⟩ := by
  simp [Inventory.compositions, eq_comm]

theorem Inventory.mem_embeds_entity {v : Inventory} {name e : String} :
    e ∈ (v.entity name).embeds ↔ ∃ c ∈ v.declared, c.name = name ∧ e ∈ c.embeds := by
  simp [Inventory.entity, Inventory.declarationsOf, and_assoc]

theorem Inventory.nodup_names (v : Inventory) : v.names.Nodup := nodup_eraseDups _

theorem Inventory.map_name_entities (v : Inventory) : v.entities.map (·.name) = v.names := by
  rw [Inventory.entities, List.map_map]
  exact List.map_id v.names

theorem Inventory.exists_entity_iff {v : Inventory} {name : String} :
    (∃ x ∈ v.entities, x.name = name) ↔ name ∈ v.names := by
  rw [← v.map_name_entities, List.mem_map]

theorem Inventory.type_of_mem_compositions {v : Inventory} {r : Relationship}
    (h : r ∈ v.compositions) : r.type = .composition := by
  obtain ⟨c, -, e, -, rfl⟩ := Inventory.mem_compositions.mp h
  rfl

theorem type_of_mem_satisfactionsOf {entities : List Entity} {r : Relationship}
    (h : r ∈ satisfactionsOf entities) : r.type = .satisfaction := by
  obtain ⟨i, -, a, -, -, -, -, rfl⟩ := mem_satisfactionsOf.mp h
  rfl

theorem Inventory.not_mem_compositions_of_satisfaction {v : Inventory} {r : Relationship}
    (h : r ∈ satisfactionsOf v.entities) : r ∉ v.compositions := by
  intro hc
  have htype := (Inventory.type_of_mem_compositions hc).symm.trans (type_of_mem_satisfactionsOf h)
  exact absurd htype (by decide)

/-- The composition edges into one type, in order, come from its embeds, in order: first occurrences
among all edges, restricted to one target, are first occurrences there. -/
theorem Inventory.sources_compositions (v : Inventory) (owner : String) :
    (v.compositions.filter (·.target = owner)).map (·.source) = (v.entity owner).embeds := by
  have hinj : Function.Injective fun e => (⟨e, owner, .composition⟩ : Relationship) := by
    intro e e' heq
    injection heq
  have hall : ∀ cs : List Contents,
      ((cs.flatMap fun c => c.embeds.map fun e =>
          (⟨e, c.name, .composition⟩ : Relationship)).filter (·.target = owner)) =
        ((cs.filter (·.name = owner)).flatMap (·.embeds)).map (⟨·, owner, .composition⟩) := by
    intro cs
    induction cs with
    | nil => rfl
    | cons c cs ih =>
        rw [List.flatMap_cons, List.filter_append, ih, List.filter_map]
        by_cases h : c.name = owner
        · simp [h, Function.comp_def]
        · simp [h, Function.comp_def]
  rw [Inventory.compositions, ← eraseDups_filter, hall, eraseDups_map hinj, List.map_map]
  exact List.map_id _

/-- **The graph of a source text is the graph of its inventory.** -/
theorem Graph.ofSource_eq_graph (source : String) :
    Graph.ofSource source = (Inventory.ofSource source).graph := by
  have hentities := Graph.entities_ofSource source
  have hrelationships : (Graph.ofSource source).relationships =
      (Inventory.ofSource source).graph.relationships := by
    have hnd : ((Inventory.ofSource source).entities.map (·.name)).Nodup := by
      rw [Inventory.map_name_entities]
      exact Inventory.nodup_names _
    rw [Graph.ofSource_eq_infer, Graph.relationships_infer, Graph.entities_collected,
      Graph.relationships_collected]
    exact foldl_addNew_of_disjoint (nodup_satisfactionsOf hnd)
      fun r hr => Inventory.not_mem_compositions_of_satisfaction hr
  cases hg : Graph.ofSource source with
  | mk entities relationships =>
      rw [hg] at hentities hrelationships
      subst hentities hrelationships
      rfl

theorem Inventory.nodup_relationships (v : Inventory) : v.graph.relationships.Nodup := by
  have hnd : (v.entities.map (·.name)).Nodup := by
    rw [v.map_name_entities]
    exact v.nodup_names
  refine List.nodup_append.mpr ⟨nodup_eraseDups _, nodup_satisfactionsOf hnd, ?_⟩
  rintro r hr s hs rfl
  exact Inventory.not_mem_compositions_of_satisfaction hs hr

theorem Inventory.edges_composition (v : Inventory) :
    v.graph.edges (some .composition) = v.compositions := by
  show (v.compositions ++ satisfactionsOf v.entities).filter (·.type = .composition) = _
  have hleft : v.compositions.filter (·.type = .composition) = v.compositions :=
    List.filter_eq_self.mpr fun r hr => by simpa using type_of_mem_compositions hr
  have hright : (satisfactionsOf v.entities).filter (·.type = .composition) = [] := by
    refine List.filter_eq_nil_iff.mpr fun r hr => ?_
    rw [type_of_mem_satisfactionsOf hr]
    decide
  rw [List.filter_append, hleft, hright, List.append_nil]

theorem Inventory.edges_satisfaction (v : Inventory) :
    v.graph.edges (some .satisfaction) = satisfactionsOf v.entities := by
  show (v.compositions ++ satisfactionsOf v.entities).filter (·.type = .satisfaction) = _
  have hleft : v.compositions.filter (·.type = .satisfaction) = [] := by
    refine List.filter_eq_nil_iff.mpr fun r hr => ?_
    rw [type_of_mem_compositions hr]
    decide
  have hright : (satisfactionsOf v.entities).filter (·.type = .satisfaction) =
      satisfactionsOf v.entities :=
    List.filter_eq_self.mpr fun r hr => by simpa using type_of_mem_satisfactionsOf hr
  rw [List.filter_append, hleft, hright, List.nil_append]

/-- No edge dangles. -/
theorem Inventory.endpoints_mem_names {v : Inventory} {r : Relationship}
    (h : r ∈ v.graph.relationships) : r.source ∈ v.names ∧ r.target ∈ v.names := by
  rcases List.mem_append.mp h with hc | hs
  · obtain ⟨c, hmem, e, he, rfl⟩ := Inventory.mem_compositions.mp hc
    exact ⟨mem_names.mpr (Or.inl ⟨c, hmem, Or.inr he⟩),
      mem_names.mpr (Or.inl ⟨c, hmem, Or.inl rfl⟩)⟩
  · obtain ⟨i, hi, a, ha, -, -, -, rfl⟩ := mem_satisfactionsOf.mp hs
    exact ⟨exists_entity_iff.mp ⟨i, hi, rfl⟩, exists_entity_iff.mp ⟨a, ha, rfl⟩⟩

theorem Inventory.mem_compositions_iff_embeds {v : Inventory} {e owner : String} :
    ⟨e, owner, .composition⟩ ∈ v.compositions ↔
      ∃ x ∈ v.entities, x.name = owner ∧ e ∈ x.embeds := by
  constructor
  · intro h
    obtain ⟨c, hc, e', he, heq⟩ := mem_compositions.mp h
    injection heq with hsource htarget
    subst hsource htarget
    have hname : c.name ∈ v.names := mem_names.mpr (Or.inl ⟨c, hc, Or.inl rfl⟩)
    exact ⟨v.entity c.name, List.mem_map_of_mem hname, rfl,
      mem_embeds_entity.mpr ⟨c, hc, rfl, he⟩⟩
  · rintro ⟨x, hx, rfl, he⟩
    obtain ⟨n, -, rfl⟩ := List.mem_map.mp hx
    obtain ⟨c, hc, hname, he⟩ := mem_embeds_entity.mp he
    exact mem_compositions.mpr ⟨c, hc, e, he, by rw [hname]; rfl⟩

/-- **The edges of a source text are exact.**  They are distinct; composition edges come first and
say what the records embed, one by one and in order; the rest are the satisfactions among the
finished records, in the order of the records; and both ends of every edge have a record. -/
theorem Graph.edges_ofSource (source : String) :
    let g := Graph.ofSource source
    g.relationships.Nodup ∧
      (∃ C S : List Relationship,
        g.relationships = C ++ S ∧
        (∀ r ∈ C, r.type = .composition) ∧
        (∀ e o : String, ⟨e, o, .composition⟩ ∈ C ↔ ∃ x ∈ g.entities, x.name = o ∧ e ∈ x.embeds) ∧
        (∀ x ∈ g.entities, (C.filter (·.target = x.name)).map (·.source) = x.embeds) ∧
        S = (((g.entities.filter (·.kind = .contract)) ×ˢ
              (g.entities.filter (·.kind = .aggregate))).filter
            fun (i, a) => i.methods ≠ [] ∧
              ∀ m ∈ i.methods, ∃ p ∈ a.methods, p.name = m.name).map
          fun (i, a) => ⟨i.name, a.name, .satisfaction⟩) ∧
      (∀ r ∈ g.relationships,
        (∃ x ∈ g.entities, x.name = r.source) ∧ ∃ x ∈ g.entities, x.name = r.target) ∧
      g.edges (some .composition) ++ g.edges (some .satisfaction) = g.edges none := by
  intro g
  have hg : g = (Inventory.ofSource source).graph := Graph.ofSource_eq_graph source
  rw [hg]
  generalize Inventory.ofSource source = v
  refine ⟨v.nodup_relationships, ⟨v.compositions, satisfactionsOf v.entities, rfl, ?_, ?_, ?_, rfl⟩,
    ?_, ?_⟩
  · exact fun r hr => Inventory.type_of_mem_compositions hr
  · exact fun e o => Inventory.mem_compositions_iff_embeds
  · intro x hx
    obtain ⟨n, -, rfl⟩ := List.mem_map.mp hx
    exact v.sources_compositions n
  · intro r hr
    obtain ⟨hsource, htarget⟩ := Inventory.endpoints_mem_names hr
    exact ⟨Inventory.exists_entity_iff.mpr hsource, Inventory.exists_entity_iff.mpr htarget⟩
  · rw [v.edges_composition, v.edges_satisfaction]
    rfl

end TypeGraph
