import Mathlib.Data.List.Nodup
import TypeGraph.Extraction
import TypeGraph.Proofs.FirstSeen

/-!
# Views of a growing graph

A graph is watched through two views: the list of its names, and the record that stands under one
name.  Every operation is described by what it does to the two.  A name is added at the end when it
is met for the first time, and an operation on one name leaves the records of all others alone; so
the record of a name after a whole run is the run of the operations on that name alone.
-/

namespace TypeGraph

open TypeGraph.Source

def Graph.names (g : Graph) : List String := g.entities.map (·.name)

/-- The record of a name; a name that was never met has the record of a placeholder. -/
def Graph.view (g : Graph) (name : String) : Entity := (g.get? name).getD { name := name }

/-- A change of a record that keeps its name. -/
def KeepsName (f : Entity → Entity) : Prop := ∀ e, (f e).name = e.name

/-! ## Looking up -/

theorem Graph.get?_eq_none_iff {g : Graph} {name : String} :
    g.get? name = none ↔ name ∉ g.names := by
  simp [Graph.get?, Graph.names]

theorem Graph.name_of_get? {g : Graph} {name : String} {e : Entity} (h : g.get? name = some e) :
    e.name = name := by
  simpa using List.find?_some h

theorem Graph.get?_of_mem {g : Graph} (hnd : g.names.Nodup) {e : Entity} (he : e ∈ g.entities) :
    g.get? e.name = some e := by
  cases hfind : g.get? e.name with
  | none => exact absurd (List.mem_map_of_mem he) (Graph.get?_eq_none_iff.mp hfind)
  | some x =>
      have hx : x ∈ g.entities := List.mem_of_find?_eq_some hfind
      have hname : x.name = e.name := Graph.name_of_get? hfind
      rw [List.inj_on_of_nodup_map hnd hx he hname]

/-- With distinct names the records are those found under the names. -/
theorem Graph.entities_eq_map_view {g : Graph} (hnd : g.names.Nodup) :
    g.entities = g.names.map g.view := by
  have h : g.entities.map (fun e => g.view e.name) = g.entities.map id := by
    apply List.map_congr_left
    intro e he
    rw [Graph.view, Graph.get?_of_mem hnd he]
    rfl
  rw [Graph.names, List.map_map]
  exact (h.trans (List.map_id _)).symm

/-! ## Small operations -/

theorem Graph.names_ensure (g : Graph) (name : String) :
    (g.ensure name).names = addNew g.names name := by
  unfold Graph.ensure Graph.names addNew
  by_cases h : g.entities.any (·.name = name) = true
  · rw [if_pos h, if_pos (by simpa using h)]
  · rw [if_neg h, if_neg (by simpa using h), List.map_append, List.map_singleton]

theorem Graph.mem_names_ensure (g : Graph) (name : String) : name ∈ (g.ensure name).names := by
  rw [Graph.names_ensure]
  exact mem_addNew.mpr (Or.inr rfl)

theorem Graph.view_ensure (g : Graph) (name n : String) :
    (g.ensure name).view n = g.view n := by
  unfold Graph.ensure
  by_cases h : g.entities.any (·.name = name) = true
  · rw [if_pos h]
  · rw [if_neg h]
    unfold Graph.view Graph.get?
    rw [List.find?_append]
    cases hn : g.entities.find? (fun e => e.name = n) with
    | some e => rfl
    | none =>
        by_cases hname : name = n
        · subst hname
          simp
        · simp [hname]

theorem Graph.relationships_ensure (g : Graph) (name : String) :
    (g.ensure name).relationships = g.relationships := by
  unfold Graph.ensure
  by_cases h : g.entities.any (·.name = name) = true
  · rw [if_pos h]
  · rw [if_neg h]

theorem Graph.names_modify {f : Entity → Entity} (hf : KeepsName f) (g : Graph) (name : String) :
    (g.modify name f).names = g.names := by
  unfold Graph.modify Graph.names
  rw [List.map_map]
  apply List.map_congr_left
  intro e _
  by_cases h : e.name = name
  · simp [h, hf e]
  · simp [h]

theorem Graph.view_modify {f : Entity → Entity} (hf : KeepsName f) {g : Graph} {name : String}
    (hmem : name ∈ g.names) (n : String) :
    (g.modify name f).view n = if n = name then f (g.view n) else g.view n := by
  have hfind : (g.modify name f).get? n =
      (g.get? n).map fun e => if e.name = name then f e else e := by
    unfold Graph.modify Graph.get?
    rw [List.find?_map]
    congr 2
    funext e
    by_cases h : e.name = name
    · simp [h, hf e]
    · simp [h]
  unfold Graph.view
  rw [hfind]
  cases hn : g.get? n with
  | none =>
      have hne : n ≠ name := by
        rintro rfl
        exact Graph.get?_eq_none_iff.mp hn hmem
      rw [if_neg hne]
      rfl
  | some e =>
      simp only [Option.map_some, Option.getD_some, Graph.name_of_get? hn]

theorem Graph.entities_relate (g : Graph) (r : Relationship) :
    (g.relate r).entities = g.entities := by
  unfold Graph.relate
  by_cases h : r ∈ g.relationships
  · rw [if_pos h]
  · rw [if_neg h]

theorem Graph.relationships_relate (g : Graph) (r : Relationship) :
    (g.relate r).relationships = addNew g.relationships r := by
  unfold Graph.relate addNew
  by_cases h : r ∈ g.relationships
  · rw [if_pos h, if_pos h]
  · rw [if_neg h, if_neg h]

theorem Graph.names_relate (g : Graph) (r : Relationship) : (g.relate r).names = g.names := by
  rw [Graph.names, Graph.entities_relate, Graph.names]

theorem Graph.view_relate (g : Graph) (r : Relationship) (n : String) :
    (g.relate r).view n = g.view n := by
  rw [Graph.view, Graph.get?, Graph.entities_relate, Graph.view, Graph.get?]

theorem Graph.names_compose (g : Graph) (embedded owner : String) :
    (g.compose embedded owner).names = addNew g.names embedded := by
  rw [Graph.compose, Graph.names_relate, Graph.names_ensure]

theorem Graph.view_compose (g : Graph) (embedded owner n : String) :
    (g.compose embedded owner).view n = g.view n := by
  rw [Graph.compose, Graph.view_relate, Graph.view_ensure]

theorem Graph.relationships_compose (g : Graph) (embedded owner : String) :
    (g.compose embedded owner).relationships =
      addNew g.relationships ⟨embedded, owner, .composition⟩ := by
  rw [Graph.compose, Graph.relationships_relate, Graph.relationships_ensure]

/-! ## Declarations and receivers -/

def Entity.addMember (e : Entity) : Member → Entity
  | .embedding name => e.addEmbed name
  | .field f => e.addField f
  | .method m => e.addMethod m

def Entity.addDeclaration (e : Entity) (d : Declaration) : Entity :=
  (members d.kind d.body).foldl Entity.addMember (e.declare d.kind)

def Source.Member.embedded? : Member → Option String
  | .embedding name => some name
  | _ => none

theorem keepsName_addEmbed (name : String) : KeepsName (·.addEmbed name) := by
  intro e
  show (e.addEmbed name).name = e.name
  unfold Entity.addEmbed
  by_cases h : name ∈ e.embeds
  · rw [if_pos h]
  · rw [if_neg h]

theorem keepsName_addField (f : Field) : KeepsName (·.addField f) := fun _ => rfl

theorem keepsName_addMethod (m : Method) : KeepsName (·.addMethod m) := fun _ => rfl

theorem keepsName_declare (kind : Kind) : KeepsName (·.declare kind) := by
  intro e
  show (e.declare kind).name = e.name
  unfold Entity.declare
  by_cases h : e.declared = true
  · rw [if_pos h]
  · rw [if_neg h]

theorem Graph.names_declare (g : Graph) (name : String) (kind : Kind) :
    (g.declare name kind).names = addNew g.names name := by
  rw [Graph.declare, Graph.names_modify (keepsName_declare kind), Graph.names_ensure]

theorem Graph.view_declare (g : Graph) (name : String) (kind : Kind) (n : String) :
    (g.declare name kind).view n =
      if n = name then (g.view n).declare kind else g.view n := by
  rw [Graph.declare, Graph.view_modify (keepsName_declare kind) (g.mem_names_ensure name),
    Graph.view_ensure]

theorem Graph.names_addMember (g : Graph) (owner : String) (m : Member) :
    (g.addMember owner m).names = m.embedded?.toList.foldl addNew g.names := by
  cases m with
  | embedding name =>
      rw [Graph.addMember, Graph.names_compose, Graph.names_modify (keepsName_addEmbed name)]
      rfl
  | field f => exact Graph.names_modify (keepsName_addField f) g owner
  | method m => exact Graph.names_modify (keepsName_addMethod m) g owner

theorem Graph.view_addMember {g : Graph} {owner : String} (hmem : owner ∈ g.names) (m : Member)
    (n : String) :
    (g.addMember owner m).view n = if n = owner then (g.view n).addMember m else g.view n := by
  cases m with
  | embedding name =>
      rw [Graph.addMember, Graph.view_compose, Graph.view_modify (keepsName_addEmbed name) hmem]
      rfl
  | field f => exact Graph.view_modify (keepsName_addField f) hmem n
  | method m => exact Graph.view_modify (keepsName_addMethod m) hmem n

theorem Graph.relationships_addMember (g : Graph) (owner : String) (m : Member) :
    (g.addMember owner m).relationships =
      (m.embedded?.toList.map (⟨·, owner, .composition⟩)).foldl addNew
        g.relationships := by
  cases m with
  | embedding name => exact Graph.relationships_compose (g.modify owner _) name owner
  | field f => rfl
  | method m => rfl

theorem Graph.names_foldl_addMember (owner : String) (ms : List Member) (g : Graph) :
    (ms.foldl (Graph.addMember owner) g).names =
      (ms.filterMap Member.embedded?).foldl addNew g.names := by
  induction ms generalizing g with
  | nil => rfl
  | cons m ms ih =>
      rw [List.foldl_cons, ih, Graph.names_addMember, List.filterMap_cons]
      cases m.embedded? <;> rfl

theorem Graph.relationships_foldl_addMember (owner : String) (ms : List Member) (g : Graph) :
    (ms.foldl (Graph.addMember owner) g).relationships =
      ((ms.filterMap Member.embedded?).map (⟨·, owner, .composition⟩)).foldl addNew
        g.relationships := by
  induction ms generalizing g with
  | nil => rfl
  | cons m ms ih =>
      rw [List.foldl_cons, ih, Graph.relationships_addMember, List.filterMap_cons]
      cases m.embedded? <;> rfl

theorem Graph.view_foldl_addMember {owner : String} (ms : List Member) {g : Graph}
    (hmem : owner ∈ g.names) (n : String) :
    (ms.foldl (Graph.addMember owner) g).view n =
      if n = owner then ms.foldl Entity.addMember (g.view n) else g.view n := by
  induction ms generalizing g with
  | nil => rw [List.foldl_nil, List.foldl_nil, ite_self]
  | cons m ms ih =>
      have hmem' : owner ∈ (g.addMember owner m).names := by
        rw [Graph.names_addMember]
        exact mem_foldl_addNew.mpr (Or.inl hmem)
      rw [List.foldl_cons, ih hmem', Graph.view_addMember hmem]
      by_cases h : n = owner
      · rw [if_pos h, if_pos h, if_pos h, List.foldl_cons]
      · rw [if_neg h, if_neg h, if_neg h]

theorem Graph.view_addDeclaration (g : Graph) (d : Declaration) (n : String) :
    (g.addDeclaration d).view n = if n = d.name then (g.view n).addDeclaration d else g.view n := by
  have hmem : d.name ∈ (g.declare d.name d.kind).names := by
    rw [Graph.names_declare]
    exact mem_addNew.mpr (Or.inr rfl)
  rw [Graph.addDeclaration, Graph.addBody, Graph.view_foldl_addMember _ hmem, Graph.view_declare]
  by_cases h : n = d.name
  · rw [if_pos h, if_pos h, if_pos h, Entity.addDeclaration]
  · rw [if_neg h, if_neg h, if_neg h]

/-- The record of a name after a run is made by the declarations of that name alone. -/
theorem Graph.view_foldl_addDeclaration (ds : List Declaration) (g : Graph) (n : String) :
    (ds.foldl Graph.addDeclaration g).view n =
      (ds.filter (·.name = n)).foldl Entity.addDeclaration (g.view n) := by
  induction ds generalizing g with
  | nil => rfl
  | cons d ds ih =>
      rw [List.foldl_cons, ih, Graph.view_addDeclaration]
      by_cases h : n = d.name
      · rw [if_pos h, List.filter_cons_of_pos (by simpa using h.symm), List.foldl_cons]
      · rw [if_neg h, List.filter_cons_of_neg (by simpa using Ne.symm h)]

theorem Graph.names_addReceiver (g : Graph) (m : ReceiverMethod) :
    (g.addReceiver m).names = addNew g.names (stripPointer m.receiver) := by
  show ((g.ensure _).modify _ _).names = _
  rw [Graph.names_modify (keepsName_addMethod m.method), Graph.names_ensure]

theorem Graph.relationships_addReceiver (g : Graph) (m : ReceiverMethod) :
    (g.addReceiver m).relationships = g.relationships :=
  Graph.relationships_ensure g (stripPointer m.receiver)

theorem Graph.view_addReceiver (g : Graph) (m : ReceiverMethod) (n : String) :
    (g.addReceiver m).view n =
      if n = stripPointer m.receiver then (g.view n).addMethod m.method else g.view n := by
  have hmem := g.mem_names_ensure (stripPointer m.receiver)
  show ((g.ensure _).modify _ _).view n = _
  rw [Graph.view_modify (keepsName_addMethod m.method) hmem, Graph.view_ensure]

theorem Graph.names_foldl_addReceiver (fs : List ReceiverMethod) (g : Graph) :
    (fs.foldl Graph.addReceiver g).names =
      (fs.map (stripPointer ·.receiver)).foldl addNew g.names := by
  induction fs generalizing g with
  | nil => rfl
  | cons f fs ih =>
      rw [List.foldl_cons, ih, Graph.names_addReceiver, List.map_cons, List.foldl_cons]

theorem Graph.relationships_foldl_addReceiver (fs : List ReceiverMethod) (g : Graph) :
    (fs.foldl Graph.addReceiver g).relationships = g.relationships := by
  induction fs generalizing g with
  | nil => rfl
  | cons f fs ih => rw [List.foldl_cons, ih, Graph.relationships_addReceiver]

theorem Graph.view_foldl_addReceiver (fs : List ReceiverMethod) (g : Graph) (n : String) :
    (fs.foldl Graph.addReceiver g).view n =
      ((fs.filter (stripPointer ·.receiver = n)).map (·.method)).foldl Entity.addMethod
        (g.view n) := by
  induction fs generalizing g with
  | nil => rfl
  | cons f fs ih =>
      rw [List.foldl_cons, ih, Graph.view_addReceiver]
      by_cases h : n = stripPointer f.receiver
      · rw [if_pos h, List.filter_cons_of_pos (by simpa using h.symm), List.map_cons,
          List.foldl_cons]
      · rw [if_neg h, List.filter_cons_of_neg (by simpa using Ne.symm h)]

end TypeGraph
