import Mathlib.Logic.Relation
import TypeGraph.Graph.Step
import TypeGraph.Proofs.EdgeModel

/-!
# Histories of a graph

A graph may grow by any history of operations, in any order and with any arguments.  However they
nest, the operations are made of three touches: a name is given an entity, the record of a name is
changed in one of four ways, an edge is added.  Whatever every touch preserves holds after every
history, and whatever order every touch respects is respected by every operation.
-/

namespace TypeGraph

open TypeGraph.Source

/-! ## Touches -/

inductive Entity.Change : (Entity → Entity) → Prop
  | declare (kind : Kind) : Entity.Change (·.declare kind)
  | embed (name : String) : Entity.Change (·.addEmbed name)
  | field (f : Field) : Entity.Change (·.addField f)
  | method (m : Method) : Entity.Change (·.addMethod m)

/-- The smallest changes of a graph. -/
inductive Graph.Touch : Graph → Graph → Prop
  | ensure (g : Graph) (name : String) : Graph.Touch g (g.ensure name)
  | modify (g : Graph) (name : String) {f : Entity → Entity} (hf : Entity.Change f) :
      Graph.Touch g (g.modify name f)
  | relate (g : Graph) (r : Relationship) : Graph.Touch g (g.relate r)

/-- One graph comes from another by touches. -/
abbrev Graph.Reaches : Graph → Graph → Prop := Relation.ReflTransGen Graph.Touch

theorem Graph.Touch.reaches {g g' : Graph} (h : g.Touch g') : g.Reaches g' :=
  Relation.ReflTransGen.single h

theorem Graph.reaches_foldl {α : Type} {f : Graph → α → Graph}
    (hf : ∀ (g : Graph) (a : α), g.Reaches (f g a)) (xs : List α) (g : Graph) :
    g.Reaches (xs.foldl f g) := by
  induction xs generalizing g with
  | nil => exact Relation.ReflTransGen.refl
  | cons x xs ih => exact (hf g x).trans (ih (f g x))

theorem Graph.reaches_declare (g : Graph) (name : String) (kind : Kind) :
    g.Reaches (g.declare name kind) :=
  (Touch.ensure g name).reaches.tail (Touch.modify _ name (.declare kind))

theorem Graph.reaches_compose (g : Graph) (embedded owner : String) :
    g.Reaches (g.compose embedded owner) :=
  (Touch.ensure g embedded).reaches.tail (Touch.relate _ _)

theorem Graph.reaches_embed (g : Graph) (owner embedded : String) :
    g.Reaches (g.embed owner embedded) :=
  (Touch.ensure g owner).reaches.tail (Touch.modify _ owner (.embed embedded))

theorem Graph.reaches_addMember (owner : String) (g : Graph) (m : Member) :
    g.Reaches (g.addMember owner m) := by
  cases m with
  | embedding name =>
      exact (Touch.modify g owner (.embed name)).reaches.trans (Graph.reaches_compose _ name owner)
  | field f => exact (Touch.modify g owner (.field f)).reaches
  | method m => exact (Touch.modify g owner (.method m)).reaches

theorem Graph.reaches_addBody (g : Graph) (owner : String) (kind : Kind) (body : List Char) :
    g.Reaches (g.addBody owner kind body) :=
  Graph.reaches_foldl (Graph.reaches_addMember owner) _ g

theorem Graph.reaches_addDeclaration (g : Graph) (d : Declaration) :
    g.Reaches (g.addDeclaration d) :=
  (Graph.reaches_declare g d.name d.kind).trans (Graph.reaches_addBody _ d.name d.kind d.body)

theorem Graph.reaches_addReceiver (g : Graph) (m : ReceiverMethod) :
    g.Reaches (g.addReceiver m) :=
  (Touch.ensure g _).reaches.tail (Touch.modify _ _ (.method m.method))

/-- **Every operation is a sequence of touches.** -/
theorem Graph.reaches_apply (g : Graph) (step : Step) : g.Reaches (g.apply step) := by
  cases step with
  | ensure name => exact (Touch.ensure g name).reaches
  | declare name kind => exact Graph.reaches_declare g name kind
  | compose embedded owner => exact Graph.reaches_compose g embedded owner
  | relate edge => exact (Touch.relate g edge).reaches
  | embed owner embedded => exact Graph.reaches_embed g owner embedded
  | body owner kind text =>
      exact (Touch.ensure g owner).reaches.trans (Graph.reaches_addBody _ owner kind text.toList)
  | declarations code => exact Graph.reaches_foldl Graph.reaches_addDeclaration _ g
  | receivers code => exact Graph.reaches_foldl Graph.reaches_addReceiver _ g
  | infer => exact Graph.reaches_foldl (fun g r => (Touch.relate g r).reaches) _ g

theorem Graph.reaches_run (steps : List Step) : Graph.Reaches {} (Graph.run steps) :=
  Graph.reaches_foldl Graph.reaches_apply steps {}

/-! ## What holds after every history -/

/-- What holds of every record: nothing is embedded twice, and only a declaration gives a kind other
than the aggregate of a placeholder. -/
structure Entity.Sound (e : Entity) : Prop where
  embeds : e.embeds.Nodup
  undeclared : e.declared = false → e.kind = .aggregate

/-- What holds of every graph: each name has one record, which carries that name, and no edge is
kept twice. -/
structure Graph.Sound (g : Graph) : Prop where
  names : g.names.Nodup
  found : ∀ name ∈ g.names, ∃ e ∈ g.entities, g.get? name = some e ∧ e.name = name
  records : ∀ e ∈ g.entities, e.Sound
  relationships : g.relationships.Nodup

theorem Graph.exists_get? (g : Graph) {name : String} (h : name ∈ g.names) :
    ∃ e ∈ g.entities, g.get? name = some e ∧ e.name = name := by
  cases hget : g.get? name with
  | none => exact absurd h (Graph.get?_eq_none_iff.mp hget)
  | some e => exact ⟨e, List.mem_of_find?_eq_some hget, rfl, Graph.name_of_get? hget⟩

theorem Entity.sound_placeholder (name : String) : Entity.Sound { name := name } :=
  ⟨List.nodup_nil, fun _ => rfl⟩

theorem Entity.Change.keepsName {f : Entity → Entity} (hf : Entity.Change f) : KeepsName f := by
  cases hf with
  | declare kind => exact keepsName_declare kind
  | embed name => exact keepsName_addEmbed name
  | field f => exact keepsName_addField f
  | method m => exact keepsName_addMethod m

theorem Entity.Change.sound {f : Entity → Entity} (hf : Entity.Change f) {e : Entity}
    (he : e.Sound) : (f e).Sound := by
  cases hf with
  | declare kind =>
      show (e.declare kind).Sound
      unfold Entity.declare
      by_cases h : e.declared = true
      · rw [if_pos h]
        exact he
      · rw [if_neg h]
        exact ⟨he.embeds, fun hfalse => absurd hfalse (by simp)⟩
  | embed name =>
      show (e.addEmbed name).Sound
      rw [Entity.addEmbed_eq]
      exact ⟨nodup_addNew he.embeds name, he.undeclared⟩
  | field f => exact ⟨he.embeds, he.undeclared⟩
  | method m => exact ⟨he.embeds, he.undeclared⟩

theorem Graph.mem_entities_ensure {g : Graph} {name : String} {e : Entity}
    (h : e ∈ (g.ensure name).entities) : e ∈ g.entities ∨ e = { name := name } := by
  unfold Graph.ensure at h
  by_cases hany : g.entities.any (·.name = name) = true
  · rw [if_pos hany] at h
    exact Or.inl h
  · rw [if_neg hany] at h
    rcases List.mem_append.mp h with h | h
    · exact Or.inl h
    · exact Or.inr (List.mem_singleton.mp h)

/-- A touch changes the names, one record or the edges, and keeps the invariant of each of the
three. -/
theorem Graph.Touch.sound {g g' : Graph} (h : g.Touch g') (hg : g.Sound) : g'.Sound := by
  refine ⟨?_, fun name hname => g'.exists_get? hname, ?_, ?_⟩
  · cases h with
    | ensure name =>
        rw [Graph.names_ensure]
        exact nodup_addNew hg.names name
    | modify name hf =>
        rw [Graph.names_modify hf.keepsName]
        exact hg.names
    | relate r =>
        rw [Graph.names_relate]
        exact hg.names
  · intro e he
    cases h with
    | ensure name =>
        rcases Graph.mem_entities_ensure he with he | rfl
        · exact hg.records e he
        · exact Entity.sound_placeholder name
    | modify name hf =>
        obtain ⟨x, hx, rfl⟩ := List.mem_map.mp he
        by_cases hname : x.name = name
        · rw [if_pos hname]
          exact hf.sound (hg.records x hx)
        · rw [if_neg hname]
          exact hg.records x hx
    | relate r =>
        rw [Graph.entities_relate] at he
        exact hg.records e he
  · cases h with
    | ensure name =>
        rw [Graph.relationships_ensure]
        exact hg.relationships
    | modify name hf => exact hg.relationships
    | relate r =>
        rw [Graph.relationships_relate]
        exact nodup_addNew hg.relationships r

theorem Graph.sound_empty : Graph.Sound {} := by
  refine ⟨List.nodup_nil, fun name hname => ?_, fun e he => ?_, List.nodup_nil⟩
  · exact absurd hname List.not_mem_nil
  · exact absurd he List.not_mem_nil

theorem Graph.Reaches.sound {g g' : Graph} (h : g.Reaches g') (hg : g.Sound) : g'.Sound := by
  induction h with
  | refl => exact hg
  | tail _ htouch ih => exact htouch.sound ih

/-! ## What no operation takes back -/

/-- A record after more has become known: its lists went on at the end, and a kind that was declared
stayed. -/
structure Entity.Grows (e e' : Entity) : Prop where
  name : e'.name = e.name
  fields : e.fields <+: e'.fields
  methods : e.methods <+: e'.methods
  embeds : e.embeds <+: e'.embeds
  declared : e.declared = true → e'.declared = true
  kind : e.declared = true → e'.kind = e.kind

/-- A graph after more has become known: names and edges came at the end, and every record is still
there and has grown. -/
structure Graph.Grows (g g' : Graph) : Prop where
  names : g.names <+: g'.names
  relationships : g.relationships <+: g'.relationships
  records : ∀ e ∈ g.entities, ∃ e' ∈ g'.entities, e.Grows e'

theorem Entity.Grows.refl (e : Entity) : e.Grows e :=
  ⟨rfl, List.prefix_rfl, List.prefix_rfl, List.prefix_rfl, id, fun _ => rfl⟩

theorem Entity.Grows.trans {e₁ e₂ e₃ : Entity} (h : e₁.Grows e₂) (h' : e₂.Grows e₃) :
    e₁.Grows e₃ where
  name := h'.name.trans h.name
  fields := h.fields.trans h'.fields
  methods := h.methods.trans h'.methods
  embeds := h.embeds.trans h'.embeds
  declared := fun hd => h'.declared (h.declared hd)
  kind := fun hd => (h'.kind (h.declared hd)).trans (h.kind hd)

theorem Graph.Grows.refl (g : Graph) : g.Grows g :=
  ⟨List.prefix_rfl, List.prefix_rfl, fun e he => ⟨e, he, Entity.Grows.refl e⟩⟩

theorem Graph.Grows.trans {g₁ g₂ g₃ : Graph} (h : g₁.Grows g₂) (h' : g₂.Grows g₃) :
    g₁.Grows g₃ := by
  refine ⟨h.names.trans h'.names, h.relationships.trans h'.relationships, fun e he => ?_⟩
  obtain ⟨e', he', hgrows⟩ := h.records e he
  obtain ⟨e'', he'', hgrows'⟩ := h'.records e' he'
  exact ⟨e'', he'', hgrows.trans hgrows'⟩

theorem isPrefix_addNew {α : Type} [DecidableEq α] (xs : List α) (x : α) : xs <+: addNew xs x := by
  unfold addNew
  by_cases h : x ∈ xs
  · simp only [if_pos h, List.prefix_rfl]
  · rw [if_neg h]
    exact List.prefix_append xs [x]

theorem Entity.Change.grows {f : Entity → Entity} (hf : Entity.Change f) (e : Entity) :
    e.Grows (f e) := by
  cases hf with
  | declare kind =>
      show e.Grows (e.declare kind)
      unfold Entity.declare
      by_cases h : e.declared = true
      · rw [if_pos h]
        exact Entity.Grows.refl e
      · rw [if_neg h]
        exact ⟨rfl, List.prefix_rfl, List.prefix_rfl, List.prefix_rfl, fun _ => rfl,
          fun hd => absurd hd h⟩
  | embed name =>
      show e.Grows (e.addEmbed name)
      rw [Entity.addEmbed_eq]
      exact { Entity.Grows.refl e with embeds := isPrefix_addNew e.embeds name }
  | field f => exact { Entity.Grows.refl e with fields := List.prefix_append e.fields [f] }
  | method m => exact { Entity.Grows.refl e with methods := List.prefix_append e.methods [m] }

theorem Graph.Touch.grows {g g' : Graph} (h : g.Touch g') : g.Grows g' := by
  cases h with
  | ensure name =>
      refine ⟨?_, ?_, fun e he => ⟨e, ?_, Entity.Grows.refl e⟩⟩
      · rw [Graph.names_ensure]
        exact isPrefix_addNew g.names name
      · simp only [Graph.relationships_ensure, List.prefix_rfl]
      · unfold Graph.ensure
        by_cases hany : g.entities.any (·.name = name) = true
        · rw [if_pos hany]
          exact he
        · rw [if_neg hany]
          exact List.mem_append_left _ he
  | modify name hf =>
      refine ⟨?_, List.prefix_rfl, fun e he => ⟨_, List.mem_map_of_mem he, ?_⟩⟩
      · simp only [Graph.names_modify hf.keepsName, List.prefix_rfl]
      · by_cases hname : e.name = name
        · rw [if_pos hname]
          exact hf.grows e
        · rw [if_neg hname]
          exact Entity.Grows.refl e
  | relate r =>
      refine ⟨?_, ?_, fun e he => ⟨e, ?_, Entity.Grows.refl e⟩⟩
      · simp only [Graph.names_relate, List.prefix_rfl]
      · rw [Graph.relationships_relate]
        exact isPrefix_addNew g.relationships r
      · rw [Graph.entities_relate]
        exact he

theorem Graph.Reaches.grows {g g' : Graph} (h : g.Reaches g') : g.Grows g' := by
  induction h with
  | refl => exact Graph.Grows.refl g
  | tail _ htouch ih => exact ih.trans htouch.grows

/-! ## Inferring twice -/

theorem foldl_addNew_of_subset {α : Type} [DecidableEq α] {xs ys : List α}
    (h : ∀ y ∈ ys, y ∈ xs) : ys.foldl addNew xs = xs := by
  induction ys with
  | nil => rfl
  | cons y ys ih =>
      rw [List.foldl_cons, addNew, if_pos (h y List.mem_cons_self)]
      exact ih fun z hz => h z (List.mem_cons_of_mem y hz)

/-- Inference reads the records alone, which it leaves as they are; so a second one finds all its
edges in place. -/
theorem Graph.infer_infer (g : Graph) : g.infer.infer = g.infer := by
  have hentities : g.infer.infer.entities = g.infer.entities := Graph.entities_infer g.infer
  have hrelationships : g.infer.infer.relationships = g.infer.relationships := by
    rw [Graph.relationships_infer g.infer, Graph.entities_infer]
    refine foldl_addNew_of_subset fun r hr => ?_
    rw [Graph.relationships_infer]
    exact mem_foldl_addNew.mpr (Or.inr hr)
  cases hg : g.infer.infer with
  | mk entities relationships =>
      rw [hg] at hentities hrelationships
      subst hentities hrelationships
      rfl

/-- **Whatever the history**, names are distinct and carried by their records, edges and embeds are
distinct, and what was never declared is an aggregate; **whatever the next operation**, it only
adds; and inferring twice in a row is inferring once. -/
theorem Graph.history_sound_grows (steps : List Step) :
    let g := Graph.run steps
    g.Sound ∧ (∀ step : Step, g.Grows (g.apply step)) ∧
      (g.apply .infer).apply .infer = g.apply .infer := by
  intro g
  refine ⟨(Graph.reaches_run steps).sound Graph.sound_empty, ?_, Graph.infer_infer g⟩
  intro step
  exact (Graph.reaches_apply g step).grows

end TypeGraph
