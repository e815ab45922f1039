import TypeGraph.Proofs.RecordedText
import TypeGraph.Proofs.ResultShape
import TypeGraph.Proofs.Verbatim

/-!
# What an inspection shows

An inspection prints the texts about a graph as marked-up text and escapes none of them.  A tag
starts with an opening bracket, so a text without one shows as it is.  All that an inspection takes
from the source text are names, and no name has a bracket; hence what shows is the plain overview of
the graph, and no source text can put a tag into it.  No name has a colon either, so none can stand
for a picture.  The console is taken to be wide enough for every line of the overview.
-/

namespace TypeGraph.Console

open TypeGraph.Source TypeGraph.Text

/-! ## Texts that show as they are -/

/-- A text without opening brackets holds no tag and no escape. -/
theorem showMarkup_of_no_open {text : String} (h : '[' ∉ text.toList) :
    showMarkup text = .ok text := by
  have huntagged := untagged_of_no_open h
  have hpieces : pieces [] text.toList = textPieces text.toList := pieces_written [] huntagged
  have hdisplays : Displays [] (pieces [] text.toList) := by
    have htexts := displays_nil.texts (textPieces_are_texts text.toList)
    rwa [List.append_nil, ← hpieces] at htexts
  rw [hdisplays.showMarkup_eq, hpieces, shown_textPieces,
    dropBracketEscapes_eq_self (not_holdsEscape_of_no_open h), String.ofList_toList]

/-- A text of characters that mean nothing to a console. -/
def Inert (text : String) : Prop := ∀ c ∈ text.toList, c ≠ '[' ∧ isPlain c = true

section Inert

variable {s t : String}

theorem Inert.no_open (h : Inert s) : '[' ∉ s.toList := fun hmem => (h _ hmem).1 rfl

theorem Inert.append (hs : Inert s) (ht : Inert t) : Inert (s ++ t) := by
  intro c hc
  rw [String.toList_append] at hc
  rcases List.mem_append.mp hc with hc | hc
  · exact hs c hc
  · exact ht c hc

theorem Inert.intercalate {texts : List String} (hs : Inert s) (h : ∀ t ∈ texts, Inert t) :
    Inert (s.intercalate texts) := by
  induction texts with
  | nil => simp [Inert]
  | cons t texts ih =>
      obtain ⟨ht, htexts⟩ := List.forall_mem_cons.mp h
      by_cases hnil : texts = []
      · subst hnil
        simpa using ht
      · rw [String.intercalate_cons_of_ne_nil hnil]
        exact (ht.append hs).append (ih htexts)

theorem Inert.page_eq (h : Inert s) : page s = s ++ "\n" := by
  have hplain : Plain s.toList := fun c hc => (h c hc).2
  have hpage := toList_page hplain
  rw [String.ofList_toList] at hpage
  rw [← String.toList_inj, hpage, String.toList_append]
  rfl

/-- No control that a console changes is a word character. -/
theorem isPlain_of_isWord {c : Char} (h : isWord c = true) : isPlain c = true := by
  have hcontrols : ∀ n ∈ [0x07, 0x08, 0x09, 0x0B, 0x0C, 0x0D], wordRanges.covers n = false := by
    decide
  have hne : ∀ n ∈ [0x07, 0x08, 0x09, 0x0B, 0x0C, 0x0D], c.toNat ≠ n := by
    rintro n hn rfl
    rw [isWord, hcontrols _ hn] at h
    exact Bool.noConfusion h
  have htab : c ≠ '\t' := fun htab => hne 0x09 (by simp) (by rw [htab]; rfl)
  simp only [List.mem_cons, List.not_mem_nil, or_false, forall_eq_or_imp, forall_eq] at hne
  simp [isPlain, isDropped, hne, htab]

theorem inert_of_isNamed (h : IsNamed s) : Inert s := by
  intro c hc
  have hword := h.2 c hc
  refine ⟨?_, isPlain_of_isWord hword⟩
  rintro rfl
  exact absurd hword (by decide)

end Inert

theorem Table.shown_of_inert {t : Table} (h : ∀ row ∈ t.rows, ∀ cell ∈ row, Inert cell) :
    t.shown = .ok t := by
  have hrow : ∀ row ∈ t.rows, row.mapM showMarkup = .ok row := by
    intro row hrow
    have hcells := Diagram.mapM_eq_ok (g := id) fun cell hcell =>
      showMarkup_of_no_open (h row hrow cell hcell).no_open
    rwa [List.map_id] at hcells
  have hrows := Diagram.mapM_eq_ok (g := id) hrow
  rw [List.map_id] at hrows
  rw [Table.shown, hrows]
  rfl

end TypeGraph.Console

namespace TypeGraph.Command

open TypeGraph.Console TypeGraph.Source TypeGraph.Text

/-! ## The texts of an inspection -/

/-- The texts about a graph that an inspection passes to the console. -/
def inspected (g : Graph) : List String :=
  (typeTable g).rows.flatten ++ g.relationships.map edgeText

/-- The overview of a graph, without markup. -/
def overview (g : Graph) : String :=
  let heading := if g.relationships = [] then [] else ["Relationships"]
  String.join (((typeTable g).lines ++ heading ++ g.relationships.map edgeText).map (· ++ "\n"))

theorem inert_edgeText {r : Relationship} (h : r.Legible) : Inert (edgeText r) := by
  have hlabel : Inert r.type.label := by
    rcases h.type with htype | htype <;> rw [htype] <;> exact forall_mem_of_all (by decide)
  have hsource := inert_of_isNamed h.source
  have htarget := inert_of_isNamed h.target
  have hblank : Inert "  " := forall_mem_of_all (by decide)
  have harrow : Inert " -> " := forall_mem_of_all (by decide)
  have hopen : Inert " (" := forall_mem_of_all (by decide)
  have hclose : Inert ")" := forall_mem_of_all (by decide)
  exact ((((hblank.append hsource).append harrow).append htarget).append hopen).append hlabel
    |>.append hclose

theorem inert_cell {source : String} {row : List String} {cell : String}
    (hrow : row ∈ (typeTable (Graph.ofSource source)).rows) (hcell : cell ∈ row) :
    Inert cell := by
  obtain ⟨e, he, rfl⟩ := List.mem_map.mp hrow
  have hrecorded := Graph.recorded_entity he
  have hkind : Inert e.kind.label := by
    rcases ((Graph.legible_ofSource source).entities e he).kind with hkind | hkind <;>
      rw [hkind] <;> exact forall_mem_of_all (by decide)
  have hjoined : ∀ names : List String, (∀ name ∈ names, IsNamed name) →
      Inert (", ".intercalate names) := by
    intro names hnames
    exact Inert.intercalate (forall_mem_of_all (by decide))
      fun name hname => inert_of_isNamed (hnames name hname)
  simp only [List.mem_cons, List.not_mem_nil, or_false] at hcell
  rcases hcell with rfl | rfl | rfl | rfl | rfl
  · exact inert_of_isNamed hrecorded.name
  · exact hkind
  · refine hjoined _ fun name hname => ?_
    obtain ⟨f, hf, rfl⟩ := List.mem_map.mp hname
    exact (hrecorded.fields f hf).1
  · refine hjoined _ fun name hname => ?_
    obtain ⟨m, hm, rfl⟩ := List.mem_map.mp hname
    exact (hrecorded.methods m hm).name
  · exact hjoined _ hrecorded.embeds

/-- **Nothing that an inspection takes from a source text is markup.** -/
theorem inert_inspected {source text : String} (h : text ∈ inspected (Graph.ofSource source)) :
    Inert text := by
  rcases List.mem_append.mp h with h | h
  · obtain ⟨row, hrow, hcell⟩ := List.mem_flatten.mp h
    exact inert_cell hrow hcell
  · obtain ⟨r, hr, rfl⟩ := List.mem_map.mp h
    exact inert_edgeText ((Graph.legible_ofSource source).relationships r hr)

/-! ## The run of an inspection -/

theorem Outcome.print_print (o : Outcome) (s t : String) :
    (o.print s).print t = o.print (s ++ t) := by
  simp [Outcome.print, String.append_assoc]

theorem Outcome.printTexts_of_inert {texts : List String} (h : ∀ text ∈ texts, Inert text)
    (o : Outcome) : o.printTexts texts = o.print (String.join (texts.map (· ++ "\n"))) := by
  induction texts generalizing o with
  | nil => simp [Outcome.printTexts, Outcome.print]
  | cons text texts ih =>
      obtain ⟨htext, htexts⟩ := List.forall_mem_cons.mp h
      rw [Outcome.printTexts, showMarkup_of_no_open htext.no_open]
      show (o.print (page text)).printTexts texts = _
      rw [ih htexts, htext.page_eq, Outcome.print_print, List.map_cons, String.join_cons]

theorem showMarkup_heading : showMarkup "[bold]Relationships[/bold]" = .ok "Relationships" := by
  decide +kernel

theorem Outcome.printTexts_edgeTexts {g : Graph} (h : ∀ r ∈ g.relationships, r.Legible)
    (o : Outcome) :
    o.printTexts (edgeTexts g) =
      o.print (String.join (((if g.relationships = [] then [] else ["Relationships"]) ++
        g.relationships.map edgeText).map (· ++ "\n"))) := by
  have hedges : ∀ text ∈ g.relationships.map edgeText, Inert text := by
    intro text htext
    obtain ⟨r, hr, rfl⟩ := List.mem_map.mp htext
    exact inert_edgeText (h r hr)
  have hheading : Inert "Relationships" := forall_mem_of_all (by decide)
  unfold edgeTexts
  split
  · exact Outcome.printTexts_of_inert hedges o
  · show Outcome.printTexts o (_ :: g.relationships.map edgeText) = _
    rw [Outcome.printTexts, showMarkup_heading]
    show (o.print (page "Relationships")).printTexts _ = _
    rw [Outcome.printTexts_of_inert hedges, hheading.page_eq, Outcome.print_print]
    simp

theorem Outcome.print_inspection (source : String) (o : Outcome) :
    o.printTable (typeTable (Graph.ofSource source))
        (·.printTexts (edgeTexts (Graph.ofSource source))) =
      o.print (overview (Graph.ofSource source)) := by
  have hshown : (typeTable (Graph.ofSource source)).shown =
      .ok (typeTable (Graph.ofSource source)) :=
    Table.shown_of_inert fun _ hrow _ => inert_cell hrow
  rw [Outcome.printTable, hshown]
  show Outcome.printTexts _ _ = _
  rw [Outcome.printTexts_edgeTexts (Graph.legible_ofSource source).relationships,
    Outcome.print_print, overview]
  simp

/-- **An inspection shows the plain overview** of the graph, unless the source text is refused. -/
theorem inspect_of_source {world : World} {a : Arguments} {settings : Settings} {level : Nat}
    {source : String}
    (hsettings : resolveSettings world (a.option? "config") none false = .ok (settings, level))
    (hsource : readSource world a.positional.head? = .ok source) :
    inspect world a =
      let o := ({} : Outcome).log level ((Service.ofSettings settings).extract source).2
      match Service.refusal? source with
      | some kind => o.refuse kind.message
      | none => o.print (overview (Graph.ofSource source)) := by
  have hparse := Service.parse_ofSettings settings source
  rw [Service.parse] at hparse
  unfold inspect
  rw [hsettings]
  simp only [hsource]
  cases hextract : (Service.ofSettings settings).extract source with
  | mk result records =>
      rw [hextract] at hparse
      cases hrefusal : Service.refusal? source with
      | some kind =>
          rw [hrefusal] at hparse
          obtain rfl : result = _ := hparse
          show Outcome.refuse _ (Failure.message ⟨kind, none⟩) = _
          rw [Service.message_of_refusal hrefusal]
      | none =>
          rw [hrefusal] at hparse
          obtain rfl : result = _ := hparse
          exact Outcome.print_inspection source _

end TypeGraph.Command
