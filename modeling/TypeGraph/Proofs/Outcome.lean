import TypeGraph.Service
import TypeGraph.Proofs.DiagramReader
import TypeGraph.Proofs.Exchange
import TypeGraph.Proofs.ProgramGraph

/-!
# How a run ends

A run of the service with the standing settings.  Extraction and drawing fail in two ways only, and
the user is told of both; a rendering fails the run only through the address of the image and
through the exchange with the server.  So a run returns exactly if the address is not too long and
the exchange has an end that the user can be told about.  The first condition can fail on a source
text alone: the address grows with the diagram.
-/

namespace TypeGraph

/-! ## The result of rendering -/

section Render

variable {r : Renderer} {diagram : String} {url : Url} {server : Server}

theorem Renderer.result_of_reported {report : Option Failure} (htarget : r.target diagram = .ok url)
    (h : Reported (fetch server url).result report) :
    (report = none ∧ ∃ image, (r.render diagram server).result = .ok image) ∨
      ∃ message, report = some ⟨.rendering, some message⟩ ∧
        (r.render diagram server).result = .error (.refused message) := by
  rw [Renderer.render, htarget]
  dsimp only
  generalize fetch server url = fetched at h ⊢
  obtain ⟨requests, result⟩ := fetched
  cases h with
  | image hstatus =>
      dsimp only
      rw [if_pos hstatus]
      exact Or.inl ⟨rfl, _, rfl⟩
  | refusal hstatus hmessage =>
      dsimp only
      rw [if_neg hstatus, hmessage]
      exact Or.inr ⟨_, rfl, rfl⟩
  | transport text => exact Or.inr ⟨_, rfl, rfl⟩

theorem Renderer.exists_reported (htarget : r.target diagram = .ok url)
    (h : ∀ e, (r.render diagram server).result ≠ .error (.exchange e)) :
    ∃ report, Reported (fetch server url).result report := by
  rw [Renderer.render, htarget] at h
  dsimp only at h
  generalize fetch server url = fetched at h ⊢
  obtain ⟨requests, result⟩ := fetched
  match result with
  | .error (.exchange e) => exact absurd rfl (h e)
  | .error (.transport text) => exact ⟨_, .transport text⟩
  | .ok answer =>
      by_cases hstatus : answer.status = 200
      · exact ⟨_, .image hstatus⟩
      · dsimp only at h
        rw [if_neg hstatus] at h
        cases hmessage : refusalMessage answer with
        | error e =>
            rw [hmessage] at h
            exact absurd rfl (h e)
        | ok message => exact ⟨_, .refusal hstatus hmessage⟩

end Render

namespace Service

def standing : Service := Service.ofSettings {}

/-! ## Extraction and drawing -/

/-- Extraction and drawing fail on a blank text and on a text without declarations, and on no other:
the graph of a source text has only edges that a diagram can show. -/
theorem diagram_cases (source : String) :
    (Text.isBlankText source = true ∧
        standing.diagram source = .error (.failure ⟨.emptyInput, none⟩)) ∨
      (Text.isBlankText source = false ∧ (Graph.ofSource source).declared = [] ∧
        standing.diagram source = .error (.failure ⟨.noDeclarations, none⟩)) ∨
      (Text.isBlankText source = false ∧ (Graph.ofSource source).declared ≠ [] ∧
        ∃ text, Diagram.render (Graph.ofSource source) = .ok text ∧
          standing.diagram source = .ok text) := by
  have hparser : standing.parsers.get? standing.language = some goParser := rfl
  have hparse : standing.parse source =
      if Text.isBlankText source then .error (.failure ⟨.emptyInput, none⟩)
      else if (Graph.ofSource source).declared = [] then .error (.failure ⟨.noDeclarations, none⟩)
      else .ok (Graph.ofSource source) := by
    rw [parse, extract, hparser]
    split
    · rfl
    · show (if (Graph.ofSource source).declared = [] then _ else _ : _ × _).1 = _
      split <;> rfl
  rw [diagram, hparse]
  cases hblank : Text.isBlankText source with
  | true => exact Or.inl ⟨rfl, rfl⟩
  | false =>
      right
      by_cases hnone : (Graph.ofSource source).declared = []
      · refine Or.inl ⟨rfl, hnone, ?_⟩
        rw [if_pos hnone]
        rfl
      · obtain ⟨text, htext, -⟩ := Diagram.exists_render (Graph.legible_ofSource source)
        refine Or.inr ⟨rfl, hnone, text, htext, ?_⟩
        rw [if_neg hnone]
        show draw (Graph.ofSource source) = _
        rw [draw, htext]

/-! ## The end of a run -/

/-- How a run ends for its user: with nothing to report, or with a failure. -/
inductive Ends (source : String) (render : Bool) (server : Server) : Option Failure → Prop
  | blank (h : Text.isBlankText source = true) :
      Ends source render server (some ⟨.emptyInput, none⟩)
  | undeclared (h : Text.isBlankText source = false)
      (hnone : (Graph.ofSource source).declared = []) :
      Ends source render server (some ⟨.noDeclarations, none⟩)
  | drawn {diagram : String} (h : standing.diagram source = .ok diagram)
      (hrender : render = false) : Ends source render server none
  | rendered {diagram : String} {report : Option Failure}
      (h : standing.diagram source = .ok diagram) (hrender : render = true)
      (hfits : (standing.renderer.url diagram).length ≤ Url.maxLength)
      (hreport : Reported (fetch server (imageUrl diagram)).result report) :
      Ends source render server report

/-- Whether a run returns a result, as opposed to passing an error on. -/
def Returns (source : String) (render : Bool) (server : Server) : Prop :=
  ∃ result, (standing.generate source render server).outcome = .ok result

section Runs

variable {source diagram : String} {server : Server}

theorem outcome_of_failure {failure : Failure} {render : Bool}
    (h : standing.diagram source = .error (.failure failure)) :
    (standing.generate source render server).outcome = .ok { error := some failure.message } := by
  rw [generate, h]
  rfl

theorem outcome_of_diagram (h : standing.diagram source = .ok diagram) :
    (standing.generate source true server).outcome =
      match (standing.renderer.render diagram server).result with
      | .ok image =>
        .ok
          { diagram := some diagram
            artifact := some image.content
            mediaType := some image.mediaType }
      | .error (.refused message) =>
        .ok
          { diagram := some diagram
            error := some (Failure.message ⟨.rendering, some message⟩) }
      | .error (.exchange e) => .error (.exchange e) := by
  rw [generate, h]
  dsimp only [Bool.not_true]
  match (standing.renderer.render diagram server).result with
  | .ok image => rfl
  | .error (.refused message) => rfl
  | .error (.exchange e) => rfl

theorem target_of_fits (hfits : (standing.renderer.url diagram).length ≤ Url.maxLength) :
    standing.renderer.target diagram = .ok (imageUrl diagram) :=
  (target_standing diagram).trans (if_neg (Nat.not_lt.mpr hfits))

theorem outcome_of_tooLong (h : standing.diagram source = .ok diagram)
    (hlong : Url.maxLength < (standing.renderer.url diagram).length) :
    (standing.generate source true server).outcome = .error (.exchange (.invalidUrl .tooLong)) := by
  have htarget : standing.renderer.target diagram = .error .tooLong :=
    (target_standing diagram).trans (if_pos hlong)
  rw [outcome_of_diagram h, Renderer.render, htarget]

theorem exists_outcome_of_reported (h : standing.diagram source = .ok diagram)
    (hfits : (standing.renderer.url diagram).length ≤ Url.maxLength) {report : Option Failure}
    (hreport : Reported (fetch server (imageUrl diagram)).result report) :
    ∃ result, (standing.generate source true server).outcome = .ok result ∧
      result.error = report.map Failure.message := by
  rw [outcome_of_diagram h]
  rcases Renderer.result_of_reported (target_of_fits hfits) hreport with
    ⟨rfl, image, hresult⟩ | ⟨message, rfl, hresult⟩
  · rw [hresult]
    exact ⟨_, rfl, rfl⟩
  · rw [hresult]
    exact ⟨_, rfl, rfl⟩

theorem exists_outcome_of_unreported (h : standing.diagram source = .ok diagram)
    (hfits : (standing.renderer.url diagram).length ≤ Url.maxLength)
    (hreport : ¬ ∃ report, Reported (fetch server (imageUrl diagram)).result report) :
    ∃ e, (standing.generate source true server).outcome = .error (.exchange e) := by
  by_contra hnone
  apply hreport
  refine Renderer.exists_reported (target_of_fits hfits) fun e hresult => hnone ⟨e, ?_⟩
  rw [outcome_of_diagram h, hresult]

end Runs

/-- A run returns and tells how it ended, or the address or the exchange raised an error. -/
theorem generate_cases (source : String) (render : Bool) (server : Server) :
    (∃ result ending, (standing.generate source render server).outcome = .ok result ∧
      Ends source render server ending ∧ result.error = ending.map Failure.message ∧
      ∀ diagram, standing.diagram source = .ok diagram → render = true →
        (standing.renderer.url diagram).length ≤ Url.maxLength ∧
          ∃ report, Reported (fetch server (imageUrl diagram)).result report) ∨
    ∃ e diagram, (standing.generate source render server).outcome = .error (.exchange e) ∧
      standing.diagram source = .ok diagram ∧ render = true ∧
      ¬ ((standing.renderer.url diagram).length ≤ Url.maxLength ∧
        ∃ report, Reported (fetch server (imageUrl diagram)).result report) := by
  rcases diagram_cases source with ⟨hblank, h⟩ | ⟨hblank, hnone, h⟩ | ⟨-, -, diagram, -, h⟩
  · left
    refine ⟨_, _, outcome_of_failure h, .blank hblank, rfl, fun diagram hdiagram => ?_⟩
    rw [h] at hdiagram
    cases hdiagram
  · left
    refine ⟨_, _, outcome_of_failure h, .undeclared hblank hnone, rfl, fun diagram hdiagram => ?_⟩
    rw [h] at hdiagram
    cases hdiagram
  · cases render with
    | false =>
        left
        refine ⟨{ diagram := some diagram }, none, ?_, .drawn h rfl, rfl, by simp⟩
        rw [generate, h]
        rfl
    | true =>
        by_cases hfits : (standing.renderer.url diagram).length ≤ Url.maxLength
        · by_cases hreport : ∃ report, Reported (fetch server (imageUrl diagram)).result report
          · left
            obtain ⟨report, hreport⟩ := hreport
            obtain ⟨result, houtcome, herror⟩ := exists_outcome_of_reported h hfits hreport
            refine ⟨result, report, houtcome, .rendered h rfl hfits hreport, herror, ?_⟩
            intro other hother _
            cases h.symm.trans hother
            exact ⟨hfits, report, hreport⟩
          · right
            obtain ⟨e, houtcome⟩ := exists_outcome_of_unreported h hfits hreport
            exact ⟨e, diagram, houtcome, h, rfl, fun hboth => hreport hboth.2⟩
        · right
          exact ⟨_, diagram, outcome_of_tooLong h (Nat.not_le.mp hfits), h, rfl,
            fun hboth => hfits hboth.1⟩

/-! ## A struct with a long name -/

/-- A struct without members makes a single entity. -/
theorem ofSource_struct (name : Program.Name) :
    Graph.ofSource (Program.source [.struct name []]) =
      { entities := [{ name := name.toString, declared := true }] } := by
  have hkind : ¬ Kind.aggregate = Kind.contract := by decide
  rw [Graph.ofSource_eq_graph, Program.ofSource_eq_inventory]
  simp [Program.inventory, Program.Item.contents?, Program.Item.received?, Inventory.graph,
    Inventory.entities, Inventory.names, Inventory.entity, Inventory.declarationsOf,
    Inventory.compositions, satisfactionsOf, List.eraseDups_cons, hkind]

theorem render_entity (name : String) :
    Diagram.render { entities := [{ name := name, declared := true }] } =
      .ok ("classDiagram\nclass " ++ name ++ " \x7b\n\x7d") := by
  show Except.ok ("\n".intercalate ["classDiagram", "class " ++ name ++ " \x7b", "\x7d"]) = _
  refine congrArg Except.ok (String.toList_inj.mp ?_)
  simp

theorem diagram_struct (name : Program.Name) :
    standing.diagram (Program.source [.struct name []]) =
      .ok ("classDiagram\nclass " ++ name.toString ++ " \x7b\n\x7d") := by
  have hgraph := ofSource_struct name
  have hletter : Text.isBlank 't' = false := by decide
  have hsource : Text.isBlankText (Program.source [.struct name []]) = false := by
    rw [Text.isBlankText, Program.source, String.toList_ofList]
    exact congrArg (· && _) hletter
  rcases diagram_cases (Program.source [.struct name []]) with
    ⟨hblank, -⟩ | ⟨-, hnone, -⟩ | ⟨-, -, text, htext, hdiagram⟩
  · rw [hsource] at hblank
    cases hblank
  · rw [hgraph] at hnone
    cases hnone
  · rw [hgraph, render_entity] at htext
    rw [hdiagram, ← Except.ok.inj htext]

/-- A name of 49112 characters makes the address of its diagram too long. -/
theorem tooLong_of_long_name (name : Program.Name) (h : 49112 ≤ name.chars.length) :
    Url.maxLength < (standing.renderer.url
      ("classDiagram\nclass " ++ name.toString ++ " \x7b\n\x7d")).length := by
  have hname : name.chars.length ≤ name.toString.utf8ByteSize := length_le_utf8ByteSize name.chars
  have hopening : "classDiagram\nclass ".utf8ByteSize = 19 := by decide
  have hclosing : " \x7b\n\x7d".utf8ByteSize = 4 := by decide
  have hlength := length_url_standing ("classDiagram\nclass " ++ name.toString ++ " \x7b\n\x7d")
  rw [String.utf8ByteSize_append, String.utf8ByteSize_append, hopening, hclosing] at hlength
  have hmax : Url.maxLength = 65536 := rfl
  show Url.maxLength < (({} : Settings).renderer.url _).length
  omega

/-- The letter A, and then so many more. -/
def manyLetters (more : Nat) : Program.Name where
  chars := List.replicate (more + 1) 'A'
  isName := by
    refine ⟨List.cons_ne_nil _ _, fun c hc => ?_⟩
    rw [List.eq_of_mem_replicate hc]
    decide

/-! ## When a run returns -/

/-- **When a run returns.**  A run returns exactly if no image is asked for, or there is no diagram
to ask it for, or the address of the image is not too long and the exchange has an end that the user
can be told about.  A run that returns tells how it ended, a failure by its message.  Against a tame
server only the length of the address counts. -/
theorem generate_returns_iff (source : String) (render : Bool) (server : Server) :
    (Returns source render server ↔
      ∀ diagram, standing.diagram source = .ok diagram → render = true →
        (standing.renderer.url diagram).length ≤ Url.maxLength ∧
          ∃ report, Reported (fetch server (imageUrl diagram)).result report) ∧
    (∀ result, (standing.generate source render server).outcome = .ok result →
      ∃ ending, Ends source render server ending ∧ result.error = ending.map Failure.message) ∧
    ((∀ i, (server i).Tame) →
      (Returns source render server ↔
        ∀ diagram, standing.diagram source = .ok diagram → render = true →
          (standing.renderer.url diagram).length ≤ Url.maxLength)) := by
  have hreturns : Returns source render server ↔
      ∀ diagram, standing.diagram source = .ok diagram → render = true →
        (standing.renderer.url diagram).length ≤ Url.maxLength ∧
          ∃ report, Reported (fetch server (imageUrl diagram)).result report := by
    rcases generate_cases source render server with
      ⟨result, ending, houtcome, -, -, hall⟩ | ⟨e, diagram, houtcome, h, hrender, hnot⟩
    · exact ⟨fun _ => hall, fun _ => ⟨result, houtcome⟩⟩
    · constructor
      · rintro ⟨result, hresult⟩
        rw [houtcome] at hresult
        cases hresult
      · intro hall
        exact absurd (hall diagram h hrender) hnot
  refine ⟨hreturns, ?_, ?_⟩
  · intro result hresult
    rcases generate_cases source render server with
      ⟨result', ending, houtcome, hends, herror, -⟩ | ⟨e, diagram, houtcome, -⟩
    · rw [houtcome] at hresult
      cases hresult
      exact ⟨ending, hends, herror⟩
    · rw [houtcome] at hresult
      cases hresult
  · intro htame
    rw [hreturns]
    refine forall₃_congr fun diagram _ _ => ?_
    have honserver : (imageUrl diagram).OnServer :=
      ⟨_, _, isPlain_imagePath diagram, by decide, rfl⟩
    exact and_iff_left (exists_reported_fetch htame honserver)

/-- The run of a struct with a name of fifty thousand letters does not return, although the server
is tame. -/
theorem not_returns_manyLetters :
    (∀ i, ((fun _ => .failure "timed out" : Server) i).Tame) ∧
      ¬ Returns (Program.source [.struct (manyLetters 49999) []]) true
        fun _ => .failure "timed out" := by
  have htame : ∀ i, ((fun _ => .failure "timed out" : Server) i).Tame := fun _ => .failure _
  refine ⟨htame, ?_⟩
  rw [(generate_returns_iff _ true _).2.2 htame]
  intro hfits
  have hlength : (manyLetters 49999).chars.length = 50000 := List.length_replicate
  have hlong := tooLong_of_long_name (manyLetters 49999) (by rw [hlength]; decide)
  exact Nat.not_le.mpr hlong (hfits _ (diagram_struct (manyLetters 49999)) rfl)

end Service

end TypeGraph
