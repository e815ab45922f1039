import TypeGraph.Proofs.EdgeModel
import TypeGraph.Proofs.NoMatch
import TypeGraph.Proofs.ProgramLines

/-!
# A printed program has the graph that it describes

Printed programs hold no comments.  The search for declarations finds the declarations and nothing
in the methods between them; the search for method heads finds the methods and nothing in the
declarations.  Together with the reading of member lines this gives the inventory of the program
back, hence its graph.
-/

namespace TypeGraph.Program

open TypeGraph.Source TypeGraph.Text

/-! ## Printed pieces -/

def Item.declaration? : Item → Option Declaration
  | .struct name members => some ⟨name.toString, .struct, block (members.map (·.text))⟩
  | .interface name members => some ⟨name.toString, .interface, block (members.map (·.text))⟩
  | .method .. => none

def Item.receiverMethod? : Item → Option ReceiverMethod
  | .method _ receiver name params results _ =>
      some ⟨String.ofList receiver.text,
        ⟨name.toString, params.toString, (results.map (·.toString)).getD ""⟩⟩
  | _ => none

theorem not_mem_block {ls : List (List Char)} (h : ∀ l ∈ ls, StandsAlone l) {c : Char}
    (hc : ¬ Inner c) (hne : c ≠ '\n') : c ∉ block ls := by
  intro hmem
  rcases List.mem_cons.mp hmem with heq | hmem
  · exact hne heq
  · obtain ⟨l, hl, hmem⟩ := List.mem_flatMap.mp hmem
    rcases List.mem_append.mp hmem with hmem | hmem
    · exact hc ((h l hl).inner c hmem)
    · exact hne (List.mem_singleton.mp hmem)

theorem uncommented_block {ls : List (List Char)} (h : ∀ l ∈ ls, StandsAlone l) :
    Uncommented (block ls) := by
  rw [block, uncommented_cons_of_ne (by decide)]
  induction ls with
  | nil => exact uncommented_nil
  | cons l ls ih =>
      rw [List.flatMap_cons, List.append_assoc, List.singleton_append,
        uncommented_append_cons (by decide) (by decide)]
      exact ⟨(h l List.mem_cons_self).uncommented,
        ih fun l' hl' => h l' (List.mem_cons_of_mem l hl')⟩

theorem standAlone_lines {ι : Type} {text : ι → List Char} (h : ∀ m, StandsAlone (text m))
    (members : List ι) : ∀ l ∈ members.map text, StandsAlone l :=
  List.forall_mem_map.mpr fun m _ => h m

/-! ## No comments -/

theorem Reference.not_mem_slash (r : Reference) : '/' ∉ r.text := by
  unfold Reference.text
  cases r.pointer with
  | true => simp [r.name.not_mem_slash]
  | false => exact r.name.not_mem_slash

theorem uncommented_declarationText (name : Name) (keyword : Keyword) {ls : List (List Char)}
    (h : ∀ l ∈ ls, StandsAlone l) : Uncommented (declarationText name keyword ls) := by
  have hkeyword : '/' ∉ keyword.word := by cases keyword <;> decide
  rw [declarationText, uncommented_append_of_not_mem (by decide), name.uncommented_append,
    uncommented_cons_of_ne (by decide), uncommented_append_of_not_mem hkeyword,
    uncommented_cons_of_ne (by decide), uncommented_cons_of_ne (by decide),
    uncommented_append_cons (by decide) (by decide)]
  exact ⟨uncommented_block h, uncommented_nil⟩

theorem uncommented_methodText (self : Name) (receiver : Reference) (name : Name) (params : Params)
    (results : Option Results) (body : Body) :
    Uncommented (Item.method self receiver name params results body).text := by
  have hend : Uncommented ('{' :: (body.chars ++ ['}'])) := by
    rw [uncommented_cons_of_ne (by decide), uncommented_append_cons (by decide) (by decide)]
    exact ⟨body.uncommented, uncommented_nil⟩
  have hresults : Uncommented (resultsText results ++ '{' :: (body.chars ++ ['}'])) := by
    cases results with
    | none => exact (uncommented_cons_of_ne (by decide)).mpr hend
    | some results =>
        rw [resultsText, List.cons_append, uncommented_cons_of_ne (by decide), List.append_assoc,
          List.singleton_append, uncommented_append_cons (by decide) (by decide)]
        exact ⟨results.uncommented, hend⟩
  rw [Item.text, headText, List.append_assoc, uncommented_append_of_not_mem (by decide),
    List.append_assoc, self.uncommented_append, List.cons_append,
    uncommented_cons_of_ne (by decide), List.append_assoc,
    uncommented_append_of_not_mem receiver.not_mem_slash, List.cons_append,
    uncommented_cons_of_ne (by decide), List.cons_append, uncommented_cons_of_ne (by decide),
    List.append_assoc, name.uncommented_append, List.cons_append,
    uncommented_cons_of_ne (by decide), List.append_assoc, List.singleton_append,
    uncommented_append_cons (by decide) (by decide)]
  exact ⟨params.uncommented, hresults⟩

theorem Item.uncommented (i : Item) : Uncommented i.text := by
  cases i with
  | struct name members =>
      exact uncommented_declarationText name .struct
        (standAlone_lines StructLine.standsAlone members)
  | interface name members =>
      exact uncommented_declarationText name .interface
        (standAlone_lines InterfaceLine.standsAlone members)
  | method self receiver name params results body =>
      exact uncommented_methodText self receiver name params results body

theorem stripComments_chars (program : List Item) :
    stripComments (chars program) = chars program := by
  refine stripComments_of_uncommented ?_
  induction program with
  | nil => exact uncommented_nil
  | cons i program ih =>
      rw [chars, List.flatMap_cons, List.append_assoc, List.singleton_append,
        uncommented_append_cons (by decide) (by decide)]
      exact ⟨i.uncommented, ih⟩

/-! ## The search for declarations -/

theorem declarations_newline (rest : List Char) :
    declarations ('\n' :: rest) = declarations rest :=
  Pattern.findAll_cons_of_none (Declaration.read?_cons_eq_none (by decide) rest)

theorem declarations_declarationText (name : Name) (keyword : Keyword) {ls : List (List Char)}
    (h : ∀ l ∈ ls, StandsAlone l) (rest : List Char) :
    declarations (declarationText name keyword ls ++ '\n' :: rest) =
      ⟨name.toString, keyword, block ls⟩ :: declarations rest := by
  have hread : Declaration.read? (declarationText name keyword ls ++ '\n' :: rest) =
      some (⟨name.toString, keyword, block ls⟩, '\n' :: rest) := by
    have hbody : '}' ∉ block ls := not_mem_block h (by decide) (by decide)
    have hat : DeclarationAt _ ⟨name.toString, keyword, block ls⟩ ('\n' :: rest) :=
      DeclarationAt.intro ('\n' :: rest) gap_space name.isName gap_space gap_space.2 hbody
    rw [Declaration.read?_eq_some_iff]
    simpa [declarationText, Name.toString] using hat
  rw [declarations, Pattern.findAll_of_read hread]
  exact congrArg _ (declarations_newline rest)

/-- The word `type` in front of the opening brace of a method is no start of a declaration. -/
theorem not_suffix_resultsText (results : Option Results) {c : Char} {w : List Char}
    (hc : isBlank c = true) (hw : w ≠ []) :
    ¬ ['t', 'y', 'p', 'e'] ++ c :: w <:+ resultsText results := by
  intro hsuffix
  cases results with
  | none =>
      have hlength := hsuffix.length_le
      simp [resultsText] at hlength
  | some results =>
      rw [resultsText, ← List.dropLast_append_getLast hw] at hsuffix
      obtain ⟨a, ha⟩ := hsuffix
      have hinit : a ++ (['t', 'y', 'p', 'e'] ++ c :: w.dropLast) = ' ' :: results.chars := by
        have hlast := congrArg List.dropLast ha
        simpa [List.dropLast_append_of_ne_nil, List.dropLast_cons_of_ne_nil] using hlast
      cases a with
      | nil =>
          injection hinit with hspace
          exact absurd hspace (by decide)
      | cons e a =>
          injection hinit with _ hresults
          have hnot := results.no_type a w.dropLast c (by rw [← hresults]; simp)
          rw [hc] at hnot
          exact Bool.noConfusion hnot

theorem Reference.inner (r : Reference) : ∀ c ∈ r.text, Inner c := r.standsAlone.inner

theorem inner_resultsText (results : Option Results) : ∀ c ∈ resultsText results, Inner c := by
  cases results with
  | none => exact forall_mem_of_all (by decide)
  | some results =>
      exact inner_append_cons (a := []) (by simp) (by decide)
        (inner_append_cons results.inner (by decide) (by simp))

/-- The head of a method without its last closing parenthesis. -/
theorem exists_headText (self : Name) (receiver : Reference) (name : Name) (params : Params) :
    ∃ h, (∀ c ∈ h, Inner c) ∧ headText self receiver name params = h ++ [')'] := by
  refine ⟨['f', 'u', 'n', 'c', ' ', '('] ++ (self.chars ++ ' ' :: (receiver.text ++
    ')' :: ' ' :: (name.chars ++ '(' :: params.chars))), ?_, by simp [headText]⟩
  have hname := inner_append_cons (c := '(') name.inner (by decide) params.inner
  have hspace := inner_append_cons (a := []) (c := ' ') (by simp) (by decide) hname
  have hreceiver := inner_append_cons (c := ')') receiver.inner (by decide) hspace
  have hself := inner_append_cons (c := ' ') self.inner (by decide) hreceiver
  exact inner_append_cons (a := ['f', 'u', 'n', 'c', ' ']) (forall_mem_of_all (by decide))
    (by decide) hself

theorem declarations_method (self : Name) (receiver : Reference) (name : Name) (params : Params)
    (results : Option Results) (body : Body) (rest : List Char) :
    declarations ((Item.method self receiver name params results body).text ++ '\n' :: rest) =
      declarations rest := by
  obtain ⟨h, hinner, hhead⟩ := exists_headText self receiver name params
  have hsplit : (Item.method self receiver name params results body).text =
      (h ++ ')' :: resultsText results) ++ '{' :: (body.chars ++ ['}']) := by
    simp [Item.text, hhead]
  have hfront := inner_append_cons (c := ')') hinner (by decide) (inner_resultsText results)
  rw [hsplit, declarations, Pattern.findAll_append_of_none]
  · exact declarations_newline rest
  · intro t hne ht
    rcases suffix_cut_cases ht with ht | ⟨u, hu, rfl⟩
    · rcases suffix_cut_cases ht with ht | ⟨u, hu, rfl⟩
      · exact absurd (List.suffix_nil.mp ht) hne
      · have hbrace : '{' ∉ u := fun hmem => body.no_brace.1 (hu.subset hmem)
        rw [List.append_assoc]
        exact Declaration.read?_eq_none_of_delimiter hbrace (by decide) (by decide) _
    · have hbrace : '{' ∉ u := fun hmem => absurd (hfront '{' (hu.subset hmem)) (by decide)
      refine Declaration.read?_eq_none_iff.mpr fun d tail hat => ?_
      obtain ⟨c, w, y, hc, hw, hloose, heq⟩ := hat.exists_cut
      rw [List.append_assoc] at heq
      obtain ⟨rfl, -⟩ := cut_unique heq hbrace (not_mem_of_loose hloose (by decide))
      rcases suffix_cut_cases hu with hu | ⟨u, -, hu⟩
      · exact not_suffix_resultsText results hc hw hu
      · exact absurd (hloose ')' (by rw [hu]; simp)) (by decide)

theorem declarations_item (i : Item) (rest : List Char) :
    declarations (i.text ++ '\n' :: rest) = i.declaration?.toList ++ declarations rest := by
  cases i with
  | struct name members =>
      exact declarations_declarationText name .struct
        (standAlone_lines StructLine.standsAlone members) rest
  | interface name members =>
      exact declarations_declarationText name .interface
        (standAlone_lines InterfaceLine.standsAlone members) rest
  | method self receiver name params results body =>
      exact declarations_method self receiver name params results body rest

theorem chars_cons (i : Item) (program : List Item) :
    chars (i :: program) = i.text ++ '\n' :: chars program := by
  rw [chars, List.flatMap_cons, List.append_assoc, List.singleton_append, chars]

/-- **The search for declarations finds the declarations of a program.** -/
theorem declarations_chars (program : List Item) :
    declarations (chars program) = program.filterMap (·.declaration?) := by
  induction program with
  | nil => rw [declarations, chars, List.flatMap_nil, Pattern.findAll, List.filterMap_nil]
  | cons i program ih =>
      rw [chars_cons, declarations_item, ih, List.filterMap_cons]
      cases i.declaration? with
      | none => rfl
      | some d => rfl

/-! ## The search for methods -/

theorem Reference.exists_star (r : Reference) :
    ∃ star, (star = [] ∨ star = ['*']) ∧ r.text = star ++ r.name.chars := by
  unfold Reference.text
  cases r.pointer with
  | true => exact ⟨['*'], Or.inr rfl, rfl⟩
  | false => exact ⟨[], Or.inl rfl, rfl⟩

theorem trim_resultsText (results : Option Results) :
    String.ofList (trim (resultsText results)) = (results.map (·.toString)).getD "" := by
  cases results with
  | none => decide
  | some results =>
      have htrim : trim (' ' :: (results.chars ++ [' '])) = results.chars := by
        have hstart := results.avoids_blank [' ']
        rw [← List.singleton_append, trim_append gap_space.2, trim_of_avoids hstart,
          trimEnd_append gap_space.2, trimEnd_of_last results.trimmed.2]
      rw [resultsText, htrim]
      rfl

theorem receiverMethodAt_method (self : Name) (receiver : Reference) (name : Name) (params : Params)
    (results : Option Results) (rest : List Char) :
    ReceiverMethodAt (headText self receiver name params ++ (resultsText results ++ '{' :: rest))
      ⟨String.ofList receiver.text,
        ⟨name.toString, params.toString, (results.map (·.toString)).getD ""⟩⟩ rest := by
  obtain ⟨star, hstar, htext⟩ := receiver.exists_star
  have hbrace : '{' ∉ resultsText results :=
    fun hmem => absurd (inner_resultsText results _ hmem) (by decide)
  have hline : '\n' ∉ trim (resultsText results) :=
    fun hmem => absurd (inner_resultsText results _ (mem_of_mem_trim hmem)) (by decide)
  have hnone : AllBlank [] := by simp [AllBlank]
  have hat := ReceiverMethodAt.intro rest gap_space hnone self.isName gap_space hstar
    receiver.name.isName hnone gap_space name.isName hnone params.oneLevel params.not_mem_newline
    hbrace hline
  rw [methodOf, trim_of_trimmed params.trimmed, trim_resultsText] at hat
  simpa [headText, htext, Name.toString, Fragment.toString] using hat

theorem receiverMethods_method (self : Name) (receiver : Reference) (name : Name) (params : Params)
    (results : Option Results) (body : Body) (rest : List Char) :
    receiverMethods ((Item.method self receiver name params results body).text ++ '\n' :: rest) =
      ⟨String.ofList receiver.text,
        ⟨name.toString, params.toString, (results.map (·.toString)).getD ""⟩⟩ ::
        receiverMethods rest := by
  have hread := ReceiverMethod.read?_eq_some_iff.mpr (receiverMethodAt_method self receiver name
    params results (body.chars ++ ['}', '\n'] ++ rest))
  have hsplit : (Item.method self receiver name params results body).text ++ '\n' :: rest =
      headText self receiver name params ++
        (resultsText results ++ '{' :: (body.chars ++ ['}', '\n'] ++ rest)) := by
    simp [Item.text]
  rw [hsplit, receiverMethods, Pattern.findAll_of_read hread, Pattern.findAll_append_of_none]
  · rfl
  · intro t hne ht
    rcases suffix_cut_cases ht with ht | ⟨u, hu, rfl⟩
    · have hnewline : t = ['\n'] := by
        rcases List.suffix_cons_iff.mp ht with ht | ht
        · exact ht
        · exact absurd (List.suffix_nil.mp ht) hne
      rw [hnewline]
      exact ReceiverMethod.read?_cons_eq_none (by decide) rest
    · refine ReceiverMethod.read?_eq_none_iff.mpr fun m tail hat => ?_
      have hfunc := hat.func_isPrefix
      rw [List.append_assoc] at hfunc
      have hinfix := (prefix_of_not_mem hfunc (by decide)).isInfix.trans hu.isInfix
      exact body.no_func hinfix

theorem receiverMethods_declarationText (name : Name) (keyword : Keyword) {ls : List (List Char)}
    (h : ∀ l ∈ ls, StandsAlone l) {rest : List Char}
    (hrest : ∀ c ∈ rest.head?, isBlank c = false ∧ c ≠ '{') :
    receiverMethods (declarationText name keyword ls ++ '\n' :: rest) = receiverMethods rest := by
  have hloose : ∀ c ∈ ['t', 'y', 'p', 'e', ' '] ++
      (name.chars ++ ([' '] ++ (keyword.word ++ [' ']))), Loose c :=
    loose_append (forall_mem_of_all (by decide)) (loose_append name.isName.loose
      (loose_append gap_space.2.loose (loose_append keyword.loose gap_space.2.loose)))
  have hsplit : declarationText name keyword ls ++ '\n' :: rest =
      (['t', 'y', 'p', 'e', ' '] ++ (name.chars ++ ([' '] ++ (keyword.word ++ [' '])))) ++
        '{' :: (block ls ++ ['}']) ++ '\n' :: rest := by
    simp [declarationText]
  rw [hsplit, receiverMethods, Pattern.findAll_append_of_none]
  · exact Pattern.findAll_cons_of_none (ReceiverMethod.read?_cons_eq_none (by decide) rest)
  · intro t hne ht
    rcases suffix_cut_cases ht with ht | ⟨u, hu, rfl⟩
    · rcases suffix_cut_cases ht with ht | ⟨u, hu, rfl⟩
      · exact absurd (List.suffix_nil.mp ht) hne
      · have hnot : ∀ c : Char, ¬ Inner c → c ≠ '\n' → c ∉ u :=
          fun c hc hne' hmem => not_mem_block h hc hne' (hu.subset hmem)
        rw [List.append_assoc]
        exact ReceiverMethod.read?_eq_none_of_closing (hnot _ (by decide) (by decide))
          (hnot _ (by decide) (by decide)) hrest
    · have hparen : '(' ∉ u :=
        fun hmem => not_mem_of_loose hloose (by decide) (hu.subset hmem)
      rw [List.append_assoc]
      exact ReceiverMethod.read?_eq_none_of_delimiter hparen (by decide) (by decide) _

/-- Every item starts with a letter, so a printed program starts neither with a blank nor with a
brace. -/
theorem head_chars (program : List Item) :
    ∀ c ∈ (chars program).head?, isBlank c = false ∧ c ≠ '{' := by
  cases program with
  | nil => simp [chars]
  | cons i program =>
      intro c hc
      have hstart : c = 't' ∨ c = 'f' := by
        cases i with
        | struct name members => exact Or.inl (Option.some.inj hc).symm
        | interface name members => exact Or.inl (Option.some.inj hc).symm
        | method self receiver name params results body => exact Or.inr (Option.some.inj hc).symm
      rcases hstart with rfl | rfl <;> decide

/-- **The search for methods finds the methods of a program.** -/
theorem receiverMethods_chars (program : List Item) :
    receiverMethods (chars program) = program.filterMap (·.receiverMethod?) := by
  induction program with
  | nil => rw [receiverMethods, chars, List.flatMap_nil, Pattern.findAll, List.filterMap_nil]
  | cons i program ih =>
      rw [chars_cons, List.filterMap_cons, ← ih]
      cases i with
      | struct name members =>
          exact receiverMethods_declarationText name .struct
            (standAlone_lines StructLine.standsAlone members) (head_chars program)
      | interface name members =>
          exact receiverMethods_declarationText name .interface
            (standAlone_lines InterfaceLine.standsAlone members) (head_chars program)
      | method self receiver name params results body =>
          exact receiverMethods_method self receiver name params results body (chars program)

/-! ## The graph of a program -/

section Block

variable {ι β : Type} {text : ι → List Char} (members : List ι)

theorem embeds_block {embedded? : ι → Option String} (hlines : ∀ m, StandsAlone (text m))
    (h : ∀ m, embedding? (text m) = embedded? m) :
    (bodyLines (block (members.map text))).filterMap embedding? = members.filterMap embedded? := by
  rw [bodyLines_block (standAlone_lines hlines members), List.filterMap_map]
  exact List.filterMap_congr fun m _ => h m

theorem others_block {read? : List Char → Option β} {member? : ι → Option β}
    (hlines : ∀ m, StandsAlone (text m))
    (h : ∀ m, (if embedding? (text m) = none then read? (text m) else none) = member? m) :
    (otherLines (block (members.map text))).filterMap read? = members.filterMap member? := by
  rw [otherLines, bodyLines_block (standAlone_lines hlines members),
    List.filterMap_filter, List.filterMap_map]
  refine List.filterMap_congr fun m _ => ?_
  simpa using h m

end Block

/-- The contents of a printed declaration are the ones that its syntax tells. -/
theorem contents_declaration? (i : Item) : i.declaration?.map (·.contents) = i.contents? := by
  cases i with
  | struct name members =>
      have hembeds := embeds_block members StructLine.standsAlone StructLine.embedding?_text
      have hfields := others_block members StructLine.standsAlone StructLine.field?_text
      simp [Item.declaration?, Item.contents?, Declaration.contents, Declaration.kind, Keyword.kind,
        hembeds, hfields]
  | interface name members =>
      have hembeds := embeds_block members InterfaceLine.standsAlone InterfaceLine.embedding?_text
      have hmethods := others_block members InterfaceLine.standsAlone InterfaceLine.method?_text
      simp [Item.declaration?, Item.contents?, Declaration.contents, Declaration.kind, Keyword.kind,
        hembeds, hmethods]
  | method self receiver name params results body => rfl

theorem received_receiverMethod? (i : Item) :
    i.receiverMethod?.map (·.received) = i.received? := by
  cases i with
  | struct name members => rfl
  | interface name members => rfl
  | method self receiver name params results body =>
      have hname : stripPointer (String.ofList receiver.text) = receiver.name.toString := by
        rw [stripPointer, String.toList_ofList, dropStar_reference, Name.toString]
      simp [Item.receiverMethod?, Item.received?, ReceiverMethod.received, hname]

/-- **A printed program has the inventory that its syntax tells.** -/
theorem ofSource_eq_inventory (program : List Item) :
    Inventory.ofSource (source program) = inventory program := by
  have hdeclared : (declarations (chars program)).map (·.contents) =
      program.filterMap (·.contents?) := by
    rw [declarations_chars, List.map_filterMap]
    exact List.filterMap_congr fun i _ => contents_declaration? i
  have hreceived : (receiverMethods (chars program)).map (·.received) =
      program.filterMap (·.received?) := by
    rw [receiverMethods_chars, List.map_filterMap]
    exact List.filterMap_congr fun i _ => received_receiverMethod? i
  rw [Inventory.ofSource, source, String.toList_ofList, stripComments_chars, hdeclared, hreceived,
    inventory]

/-- **Extraction is complete and exact on programs**: the graph of the printed text is the graph of
the inventory that the syntax of the program tells. -/
theorem graph_ofSource_source (program : List Item) :
    Graph.ofSource (source program) = (inventory program).graph := by
  rw [Graph.ofSource_eq_graph, ofSource_eq_inventory]

end TypeGraph.Program
