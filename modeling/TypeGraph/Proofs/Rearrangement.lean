import TypeGraph.Proofs.EdgeModel

/-!
# Rearranged source texts

Declarations and methods may stand in any order.  Two source texts that say the same things in
different orders have graphs that say the same: the tables grow differently on the way, but a graph
is the graph of an inventory, and an inventory forgets all but the order of its two lists.  One
thing does depend on the order, namely which of two contradicting declarations gives the kind, so a
name must not be declared with both keywords.
-/

namespace TypeGraph

open TypeGraph.Source

/-- Two records that say the same of one type, in whatever order. -/
structure Entity.Agrees (e e' : Entity) : Prop where
  kind : e.kind = e'.kind
  declared : e.declared = e'.declared
  fields : e.fields.Perm e'.fields
  methods : e.methods.Perm e'.methods
  embeds : ∀ name, name ∈ e.embeds ↔ name ∈ e'.embeds

/-- Two graphs with the same names, agreeing records and the same edges, in whatever order. -/
structure Graph.Agrees (g g' : Graph) : Prop where
  names : ∀ name, name ∈ g.names ↔ name ∈ g'.names
  records : ∀ e ∈ g.entities, ∀ e' ∈ g'.entities, e.name = e'.name → e.Agrees e'
  relationships : ∀ r, r ∈ g.relationships ↔ r ∈ g'.relationships

/-- Two inventories with the same items in different orders, in which no two declarations of a name
give it different kinds. -/
structure Inventory.Rearranged (v w : Inventory) : Prop where
  declared : v.declared.Perm w.declared
  received : v.received.Perm w.received
  kind : ∀ c ∈ v.declared, ∀ c' ∈ v.declared, c.name = c'.name → c.kind = c'.kind

section Rearranged

variable {v w : Inventory} (h : v.Rearranged w)

include h

theorem Inventory.Rearranged.symm : w.Rearranged v where
  declared := h.declared.symm
  received := h.received.symm
  kind := fun c hc c' hc' =>
    h.kind c (h.declared.mem_iff.mpr hc) c' (h.declared.mem_iff.mpr hc')

theorem Inventory.Rearranged.mem_names (name : String) : name ∈ v.names ↔ name ∈ w.names := by
  simp only [Inventory.mem_names, h.declared.mem_iff, h.received.mem_iff]

theorem Inventory.Rearranged.declarationsOf (name : String) :
    (v.declarationsOf name).Perm (w.declarationsOf name) :=
  h.declared.filter _

/-- Whichever declaration of a name comes first, it gives the same kind. -/
theorem Inventory.Rearranged.kind_entity (name : String) :
    (v.entity name).kind = (w.entity name).kind := by
  have hperm := h.declarationsOf name
  show ((v.declarationsOf name).head?.map (·.kind)).getD .aggregate =
    ((w.declarationsOf name).head?.map (·.kind)).getD .aggregate
  cases hv : v.declarationsOf name with
  | nil =>
      rw [hv] at hperm
      rw [hperm.nil_eq]
  | cons c cs =>
      cases hw : w.declarationsOf name with
      | nil =>
          rw [hv, hw] at hperm
          exact absurd hperm.eq_nil (by simp)
      | cons c' cs' =>
          have hc : c ∈ v.declarationsOf name := by rw [hv]; exact List.mem_cons_self
          have hc' : c' ∈ v.declarationsOf name := by
            rw [hperm.mem_iff, hw]
            exact List.mem_cons_self
          obtain ⟨hc, hname⟩ := List.mem_filter.mp hc
          obtain ⟨hc', hname'⟩ := List.mem_filter.mp hc'
          simp only [decide_eq_true_eq] at hname hname'
          exact h.kind c hc c' hc' (hname.trans hname'.symm)

theorem Inventory.Rearranged.agrees_entity (name : String) :
    (v.entity name).Agrees (w.entity name) where
  kind := h.kind_entity name
  declared := by
    show v.declared.any (·.name = name) = w.declared.any (·.name = name)
    rw [Bool.eq_iff_iff]
    simp only [List.any_eq_true, h.declared.mem_iff]
  fields := (h.declarationsOf name).flatMap_right _
  methods := ((h.declarationsOf name).flatMap_right _).append ((h.received.filter _).map _)
  embeds := by
    intro e
    simp only [Inventory.mem_embeds_entity, h.declared.mem_iff]

theorem Inventory.Rearranged.mem_compositions (r : Relationship) :
    r ∈ v.compositions ↔ r ∈ w.compositions := by
  simp only [Inventory.mem_compositions, h.declared.mem_iff]

end Rearranged

/-- What is provided is a matter of method names. -/
theorem Provides.of_agrees {a a' i i' : Entity} (ha : a.Agrees a') (hi : i.Agrees i')
    (h : Provides a i) : Provides a' i' := by
  obtain ⟨hne, hall⟩ := h
  refine ⟨fun hnil => hne ?_, fun m hm => ?_⟩
  · have hperm := hi.methods
    rw [hnil] at hperm
    exact hperm.eq_nil
  · obtain ⟨p, hp, hname⟩ := hall m (hi.methods.mem_iff.mpr hm)
    exact ⟨p, ha.methods.mem_iff.mp hp, hname⟩

theorem Inventory.Rearranged.mem_satisfactions {v w : Inventory} (h : v.Rearranged w)
    {r : Relationship} (hr : r ∈ satisfactionsOf v.entities) : r ∈ satisfactionsOf w.entities := by
  obtain ⟨i, hi, a, ha, hik, hak, hprovides, rfl⟩ := mem_satisfactionsOf.mp hr
  obtain ⟨n, hn, rfl⟩ := List.mem_map.mp hi
  obtain ⟨m, hm, rfl⟩ := List.mem_map.mp ha
  refine mem_satisfactionsOf.mpr ⟨w.entity n, List.mem_map_of_mem ((h.mem_names n).mp hn),
    w.entity m, List.mem_map_of_mem ((h.mem_names m).mp hm), ?_, ?_, ?_, rfl⟩
  · rw [← h.kind_entity n]
    exact hik
  · rw [← h.kind_entity m]
    exact hak
  · exact hprovides.of_agrees (h.agrees_entity m) (h.agrees_entity n)

theorem Inventory.Rearranged.agrees_graph {v w : Inventory} (h : v.Rearranged w) :
    v.graph.Agrees w.graph := by
  refine ⟨fun name => ?_, ?_, fun r => ?_⟩
  · show name ∈ v.entities.map (·.name) ↔ name ∈ w.entities.map (·.name)
    rw [v.map_name_entities, w.map_name_entities]
    exact h.mem_names name
  · intro e he e' he' hname
    obtain ⟨n, -, rfl⟩ := List.mem_map.mp he
    obtain ⟨n', -, rfl⟩ := List.mem_map.mp he'
    have hn : n = n' := hname
    subst hn
    exact h.agrees_entity n
  · have hsatisfactions : r ∈ satisfactionsOf v.entities ↔ r ∈ satisfactionsOf w.entities :=
      ⟨h.mem_satisfactions, h.symm.mem_satisfactions⟩
    show r ∈ v.compositions ++ satisfactionsOf v.entities ↔
      r ∈ w.compositions ++ satisfactionsOf w.entities
    rw [List.mem_append, List.mem_append, h.mem_compositions, hsatisfactions]

/-- **The order of declarations and of methods does not change the graph**, as long as no name is
declared with both keywords. -/
theorem Graph.agrees_of_perm {s t : String}
    (hdeclared : (declarations (stripComments s.toList)).Perm
      (declarations (stripComments t.toList)))
    (hreceived : ((receiverMethods (stripComments s.toList)).map fun m =>
        (stripPointer m.receiver, m.method)).Perm
      ((receiverMethods (stripComments t.toList)).map fun m =>
        (stripPointer m.receiver, m.method)))
    (hkeyword : ∀ d ∈ declarations (stripComments s.toList),
      ∀ d' ∈ declarations (stripComments s.toList), d.name = d'.name → d.keyword = d'.keyword) :
    (Graph.ofSource s).Agrees (Graph.ofSource t) := by
  have h : (Inventory.ofSource s).Rearranged (Inventory.ofSource t) := by
    refine ⟨hdeclared.map _, hreceived, ?_⟩
    intro c hc c' hc' hname
    obtain ⟨d, hd, rfl⟩ := List.mem_map.mp hc
    obtain ⟨d', hd', rfl⟩ := List.mem_map.mp hc'
    exact congrArg Keyword.kind (hkeyword d hd d' hd' hname)
  rw [Graph.ofSource_eq_graph s, Graph.ofSource_eq_graph t]
  exact h.agrees_graph

/-- A contract that is embedded before its body is seen or after, and a method of a type declared
earlier or later: the tables differ, the graphs agree. -/
theorem Graph.agrees_of_perm_placeholder :
    let s := "type A struct{*B}type B interface{M()}func (a *A) M(){}"
    let t := "func (a A) M(){}type B interface{M()}type A struct{*B}"
    (Graph.ofSource s).names ≠ (Graph.ofSource t).names ∧
      (Graph.ofSource s).Agrees (Graph.ofSource t) :=
  ⟨by decide +kernel,
    Graph.agrees_of_perm (by decide +kernel) (by decide +kernel) (by decide +kernel)⟩

end TypeGraph
