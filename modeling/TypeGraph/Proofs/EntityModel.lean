import TypeGraph.Proofs.Growth
import TypeGraph.Proofs.Inventory

/-!
# The table-driven run computes the graph of the inventory

The entities of a source text are those of its inventory.  The order of the names follows from the
names view of each operation; the record of a name is the run of its own declarations and methods,
whose parts are summed up one declaration at a time.
-/

namespace TypeGraph

open TypeGraph.Source TypeGraph.Text

attribute [ext] Entity

/-! ## The members of a body -/

def Source.Member.field? : Member → Option Field
  | .field f => some f
  | _ => none

def Source.Member.method? : Member → Option Method
  | .method m => some m
  | _ => none

/-- A line is an embedding whenever it has that form; the kind of the body decides on the others. -/
theorem Source.Member.ofLine?_cases (kind : Kind) (line : List Char) :
    (∃ name, embedding? line = some name ∧
      Member.ofLine? kind line = some (.embedding name)) ∨
    (embedding? line = none ∧ kind = .aggregate ∧
      Member.ofLine? kind line = (Source.field? line).map .field) ∨
    (embedding? line = none ∧ kind ≠ .aggregate ∧
      Member.ofLine? kind line = (Source.method? line).map .method) := by
  unfold Member.ofLine?
  cases embedding? line with
  | some name => exact Or.inl ⟨name, rfl, rfl⟩
  | none =>
      by_cases h : kind = .aggregate
      · exact Or.inr (Or.inl ⟨rfl, h, if_pos h⟩)
      · exact Or.inr (Or.inr ⟨rfl, h, if_neg h⟩)

theorem embedded_members (kind : Kind) (body : List Char) :
    (members kind body).filterMap Member.embedded? = (bodyLines body).filterMap embedding? := by
  rw [members, List.filterMap_filterMap]
  refine List.filterMap_congr fun line _ => ?_
  rcases Member.ofLine?_cases kind line with ⟨name, he, h⟩ | ⟨he, -, h⟩ | ⟨he, -, h⟩
  · rw [h, he]
    rfl
  · rw [h, he]
    cases Source.field? line <;> rfl
  · rw [h, he]
    cases Source.method? line <;> rfl

theorem fields_members (kind : Kind) (body : List Char) :
    (members kind body).filterMap Member.field? =
      if kind = .aggregate then (otherLines body).filterMap Source.field? else [] := by
  have hline : ∀ line, (Member.ofLine? kind line).bind Member.field? =
      if kind = .aggregate then
        if embedding? line = none then Source.field? line else none
      else none := by
    intro line
    rcases Member.ofLine?_cases kind line with ⟨name, he, h⟩ | ⟨he, hk, h⟩ | ⟨he, hk, h⟩
    · simp [h, he, Member.field?]
    · rw [h, if_pos hk, if_pos he]
      cases Source.field? line <;> rfl
    · rw [h, if_neg hk]
      cases Source.method? line <;> rfl
  rw [members, List.filterMap_filterMap]
  simp only [hline]
  by_cases hk : kind = .aggregate
  · simp [hk, otherLines, List.filterMap_filter]
  · simp [hk]

theorem methods_members (kind : Kind) (body : List Char) :
    (members kind body).filterMap Member.method? =
      if kind = .aggregate then [] else (otherLines body).filterMap Source.method? := by
  have hline : ∀ line, (Member.ofLine? kind line).bind Member.method? =
      if kind = .aggregate then none
      else if embedding? line = none then Source.method? line else none := by
    intro line
    rcases Member.ofLine?_cases kind line with ⟨name, he, h⟩ | ⟨he, hk, h⟩ | ⟨he, hk, h⟩
    · simp [h, he, Member.method?]
    · rw [h, if_pos hk]
      cases Source.field? line <;> rfl
    · rw [h, if_neg hk, if_pos he]
      cases Source.method? line <;> rfl
  rw [members, List.filterMap_filterMap]
  simp only [hline]
  by_cases hk : kind = .aggregate
  · simp [hk]
  · simp [hk, otherLines, List.filterMap_filter]

theorem Source.Declaration.methods_members_eq (d : Declaration) :
    (members d.kind d.body).filterMap Member.method? = d.contents.methods := by
  rw [methods_members]
  cases hk : d.keyword <;> simp [Declaration.contents, Declaration.kind, Keyword.kind, hk,
    Kind.aggregate, Kind.contract]

/-! ## Entering members in one record -/

theorem Entity.addEmbed_eq (e : Entity) (name : String) :
    e.addEmbed name = { e with embeds := addNew e.embeds name } := by
  unfold Entity.addEmbed addNew
  by_cases h : name ∈ e.embeds
  · rw [if_pos h, if_pos h]
  · rw [if_neg h, if_neg h]

/-- Members go to the end of the lists they belong to; all else stays. -/
theorem Entity.foldl_addMember (ms : List Member) (e : Entity) :
    ms.foldl Entity.addMember e =
      { e with
        embeds := (ms.filterMap Member.embedded?).foldl addNew e.embeds
        fields := e.fields ++ ms.filterMap Member.field?
        methods := e.methods ++ ms.filterMap Member.method? } := by
  induction ms generalizing e with
  | nil => simp
  | cons m ms ih =>
      rw [List.foldl_cons, ih]
      simp only [List.filterMap_cons]
      cases m with
      | embedding name =>
          rw [Entity.addMember, Entity.addEmbed_eq]
          rfl
      | field f =>
          rw [Entity.addMember, Entity.addField]
          simp [Member.embedded?, Member.field?, Member.method?]
      | method m =>
          rw [Entity.addMember, Entity.addMethod]
          simp [Member.embedded?, Member.field?, Member.method?]

theorem Entity.foldl_addMethod (ms : List Method) (e : Entity) :
    ms.foldl Entity.addMethod e = { e with methods := e.methods ++ ms } := by
  induction ms generalizing e with
  | nil => simp
  | cons m ms ih =>
      rw [List.foldl_cons, ih]
      simp [Entity.addMethod]

theorem Entity.addDeclaration_eq (e : Entity) (d : Declaration) :
    e.addDeclaration d =
      { name := e.name
        kind := if e.declared then e.kind else d.contents.kind
        fields := e.fields ++ d.contents.fields
        methods := e.methods ++ d.contents.methods
        embeds := d.contents.embeds.foldl addNew e.embeds
        declared := true } := by
  have hfields : (members d.kind d.body).filterMap Member.field? = d.contents.fields := by
    rw [fields_members]
    cases hk : d.keyword <;> simp [Declaration.contents, Declaration.kind, Keyword.kind, hk,
      Kind.aggregate, Kind.contract]
  rw [Entity.addDeclaration, Entity.foldl_addMember, hfields, d.methods_members_eq, embedded_members]
  unfold Entity.declare
  by_cases h : e.declared = true
  · simp [h, Declaration.contents]
  · simp [h, Declaration.contents]

/-- Declarations of one name, entered one after the other, add up; only the first gives the kind. -/
theorem Entity.foldl_addDeclaration (name : String) (ds : List Declaration) :
    ds.foldl Entity.addDeclaration { name := name } =
      { name := name
        kind := ((ds.map (·.contents)).head?.map (·.kind)).getD .aggregate
        fields := (ds.map (·.contents)).flatMap (·.fields)
        methods := (ds.map (·.contents)).flatMap (·.methods)
        embeds := ((ds.map (·.contents)).flatMap (·.embeds)).eraseDups
        declared := !ds.isEmpty } := by
  induction ds using List.reverseRecOn with
  | nil => rfl
  | append_singleton ds d ih =>
      rw [List.foldl_append, ih, List.foldl_cons, List.foldl_nil, Entity.addDeclaration_eq,
        foldl_addNew_eraseDups]
      cases ds with
      | nil => simp
      | cons d' ds => simp

/-! ## The whole run -/

theorem Graph.names_addDeclaration (g : Graph) (d : Declaration) :
    (g.addDeclaration d).names = (d.contents.name :: d.contents.embeds).foldl addNew g.names := by
  rw [Graph.addDeclaration, Graph.addBody, Graph.names_foldl_addMember, embedded_members,
    Graph.names_declare]
  rfl

theorem Graph.names_foldl_addDeclaration (ds : List Declaration) (g : Graph) :
    (ds.foldl Graph.addDeclaration g).names =
      ((ds.map (·.contents)).flatMap fun c => c.name :: c.embeds).foldl addNew g.names := by
  induction ds generalizing g with
  | nil => rfl
  | cons d ds ih =>
      rw [List.foldl_cons, ih, Graph.names_addDeclaration, List.map_cons, List.flatMap_cons,
        List.foldl_append]

/-- The graph before the satisfaction edges are inferred. -/
def Graph.collected (source : String) : Graph :=
  (Graph.addDeclarations {} (stripComments source.toList)).addReceivers
    (stripComments source.toList)

theorem Graph.ofSource_eq_infer (source : String) :
    Graph.ofSource source = (Graph.collected source).infer := rfl

theorem Graph.entities_foldl_relate (rs : List Relationship) (g : Graph) :
    (rs.foldl Graph.relate g).entities = g.entities := by
  induction rs generalizing g with
  | nil => rfl
  | cons r rs ih => rw [List.foldl_cons, ih, Graph.entities_relate]

theorem Graph.entities_infer (g : Graph) : g.infer.entities = g.entities :=
  Graph.entities_foldl_relate g.satisfactions g

theorem Graph.names_collected (source : String) :
    (Graph.collected source).names = (Inventory.ofSource source).names := by
  rw [Graph.collected, Graph.addReceivers, Graph.names_foldl_addReceiver, Graph.addDeclarations,
    Graph.names_foldl_addDeclaration, ← List.foldl_append]
  show List.foldl addNew [] _ = _
  rw [foldl_addNew_nil, Inventory.names]
  simp [Inventory.ofSource, ReceiverMethod.received, Function.comp_def]

theorem Graph.view_collected (source name : String) :
    (Graph.collected source).view name = (Inventory.ofSource source).entity name := by
  have hempty : Graph.view {} name = { name := name } := rfl
  have hdeclared : ∀ ds : List Declaration,
      (!(ds.filter (·.name = name)).isEmpty) = ds.any (·.name = name) := by
    intro ds
    rw [Bool.eq_iff_iff]
    simp
  rw [Graph.collected, Graph.addReceivers, Graph.view_foldl_addReceiver, Graph.addDeclarations,
    Graph.view_foldl_addDeclaration, hempty, Entity.foldl_addDeclaration, Entity.foldl_addMethod]
  ext1
  all_goals simp [Inventory.entity, Inventory.declarationsOf, Inventory.ofSource, hdeclared,
    List.filter_map, Function.comp_def, ReceiverMethod.received, Declaration.contents]

theorem Graph.entities_collected (source : String) :
    (Graph.collected source).entities = (Inventory.ofSource source).entities := by
  have hnd : (Graph.collected source).names.Nodup := by
    rw [Graph.names_collected]
    exact nodup_eraseDups _
  rw [Graph.entities_eq_map_view hnd, Graph.names_collected, Inventory.entities]
  exact List.map_congr_left fun name _ => Graph.view_collected source name

theorem Graph.entities_ofSource (source : String) :
    (Graph.ofSource source).entities = (Inventory.ofSource source).entities := by
  rw [Graph.ofSource_eq_infer, Graph.entities_infer, Graph.entities_collected]

theorem Inventory.declarationsOf_ofSource (source name : String) :
    (Inventory.ofSource source).declarationsOf name =
      ((declarations (stripComments source.toList)).filter (·.name = name)).map (·.contents) := by
  simp [Inventory.declarationsOf, Inventory.ofSource, List.filter_map, Function.comp_def,
    Declaration.contents]

theorem flatMap_filter_ite {α β : Type} (p q : α → Prop) [DecidablePred p] [DecidablePred q]
    (f : α → List β) (xs : List α) :
    ((xs.filter p).flatMap fun x => if q x then f x else []) =
      (xs.filter fun x => p x ∧ q x).flatMap f := by
  induction xs with
  | nil => rfl
  | cons x xs ih =>
      by_cases hp : p x
      · rw [List.filter_cons_of_pos (by simpa using hp), List.flatMap_cons, ih]
        by_cases hq : q x
        · rw [if_pos hq, List.filter_cons_of_pos (by simpa using ⟨hp, hq⟩), List.flatMap_cons]
        · rw [if_neg hq, List.filter_cons_of_neg (by simp [hq]), List.nil_append]
      · rw [List.filter_cons_of_neg (by simpa using hp), ih,
          List.filter_cons_of_neg (by simp [hp])]

/-- **The entities of a source text, stated outright.**  With `D` the declarations and `F` the
methods with a receiver, both over the text without its comments: the names are the first
occurrences in the sequence of each declared name, the names embedded in its body, and then the
receivers; and the record of every name is put together from `D` and `F` alone. -/
theorem Graph.records_ofSource (source : String) :
    let D := declarations (stripComments source.toList)
    let F := (receiverMethods (stripComments source.toList)).map fun m =>
      (stripPointer m.receiver, m.method)
    let entities := (Graph.ofSource source).entities
    entities.map (·.name) =
        ((D.flatMap fun d => d.name :: (bodyLines d.body).filterMap embedding?) ++
          F.map (·.1)).eraseDups ∧
      ∀ e ∈ entities,
        (e.declared = true ↔ ∃ d ∈ D, d.name = e.name) ∧
        e.kind = ((D.find? (·.name = e.name)).map (·.keyword.kind)).getD .aggregate ∧
        e.fields = (D.filter fun d => d.name = e.name ∧ d.keyword = .struct).flatMap
          (fun d => (otherLines d.body).filterMap field?) ∧
        e.embeds = ((D.filter (·.name = e.name)).flatMap
          fun d => (bodyLines d.body).filterMap embedding?).eraseDups ∧
        e.methods =
          (D.filter fun d => d.name = e.name ∧ d.keyword = .interface).flatMap
              (fun d => (otherLines d.body).filterMap method?) ++
            (F.filter (·.1 = e.name)).map (·.2) := by
  intro D F entities
  have hentities : entities = (Inventory.ofSource source).names.map
      (Inventory.ofSource source).entity := Graph.entities_ofSource source
  have hdecl : ∀ n, (Inventory.ofSource source).declarationsOf n =
      (D.filter (·.name = n)).map (·.contents) := Inventory.declarationsOf_ofSource source
  constructor
  · rw [hentities, List.map_map]
    show (Inventory.ofSource source).names.map id = _
    rw [List.map_id, Inventory.names]
    simp [Inventory.ofSource, Declaration.contents, ReceiverMethod.received, List.flatMap_map,
      Function.comp_def, D, F]
  · intro e he
    rw [hentities] at he
    obtain ⟨n, -, rfl⟩ := List.mem_map.mp he
    refine ⟨?_, ?_, ?_, ?_, ?_⟩
    · simp [Inventory.entity, Inventory.ofSource, Declaration.contents, D]
    · show (((Inventory.ofSource source).declarationsOf n).head?.map (·.kind)).getD .aggregate = _
      rw [hdecl, List.head?_map, List.head?_filter, Option.map_map]
      rfl
    · show ((Inventory.ofSource source).declarationsOf n).flatMap (·.fields) = _
      rw [hdecl, List.flatMap_map]
      exact flatMap_filter_ite (·.name = n) (·.keyword = .struct) _ D
    · show (((Inventory.ofSource source).declarationsOf n).flatMap (·.embeds)).eraseDups = _
      rw [hdecl, List.flatMap_map]
      rfl
    · show ((Inventory.ofSource source).declarationsOf n).flatMap (·.methods) ++ _ = _
      rw [hdecl, List.flatMap_map]
      have hmethods := flatMap_filter_ite (fun d : Declaration => d.name = n)
        (·.keyword = .interface) (fun d => (otherLines d.body).filterMap method?) D
      exact congrArg (· ++ _) hmethods

end TypeGraph
