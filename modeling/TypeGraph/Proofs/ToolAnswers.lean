import TypeGraph.Proofs.ResultShape
import TypeGraph.Tools.Basic

/-!
# The tools agree

Calls of the three tools on one source text.  The tool that draws and the tool that describes fail
on the same texts with the same message, and otherwise they show one graph; the tool that renders
does so too, whatever its format and its server, and it alone asks a server for anything.
-/

namespace TypeGraph.Tool

def failureAnswer (message : String) : Value := .record [("error", .text message)]

def diagramAnswer (diagram : String) : Value := .record [("diagram", .text diagram)]

/-- The answer that tells why a diagram has no image, or why there is no diagram. -/
def noImageAnswer (message : String) (diagram : Value) : Value :=
  .record [("error", .text message), ("diagram", diagram)]

def imageAnswer (diagram mediaType : String) (content : List UInt8) : Value :=
  .record [
    ("diagram", .text diagram),
    ("media_type", .text mediaType),
    ("artifact_base64", .text (String.ofList (Base64.standard.encode content)))]

/-- What calls of the tools on one source text have to do with each other.  The last tool was called
with a format and served by a server. -/
structure Agreement (s : Settings) (source : String) (format : Value) (server : Server)
    (calls : Tool → ToolCall) : Prop where
  /-- Drawing tells a failure exactly if describing does. -/
  failure_iff : ∀ message,
    (calls .draw).result = .ok (failureAnswer message) ↔
      (calls .describe).result = .ok (failureAnswer message)
  /-- Drawing tells exactly the failures of the service. -/
  raised_iff : ∀ message,
    (calls .draw).result = .ok (failureAnswer message) ↔
      ∃ f, (Service.ofSettings s).diagram source = .error (.failure f) ∧ f.message = message
  /-- Where no failure is told, drawing shows the graph that describing describes. -/
  drawn : (∀ message, (calls .draw).result ≠ .ok (failureAnswer message)) →
    ∃ graph diagram, (Service.ofSettings s).parse source = .ok graph ∧
      Diagram.render graph = .ok diagram ∧ (calls .draw).result = .ok (diagramAnswer diagram) ∧
      (calls .describe).result = .ok graph.describe
  /-- Rendering tells the same failure, beside no diagram. -/
  rendered_failure : ∀ message s', (calls .draw).result = .ok (failureAnswer message) →
    formatSettings s format = .ok s' →
      (calls .render).result = .ok (noImageAnswer message .null)
  /-- Rendering shows the same diagram, with an image or with the reason why there is none. -/
  rendered_diagram : ∀ diagram s' answer, (calls .draw).result = .ok (diagramAnswer diagram) →
    formatSettings s format = .ok s' → (calls .render).result = .ok answer →
      (∃ message, answer = noImageAnswer ("Render error: " ++ message) (.text diagram)) ∨
      ∃ last, LastAnswer server (calls .render).requests last ∧
        answer = imageAnswer diagram s'.outputFormat.mediaType last.body
  /-- Drawing and describing ask no server. -/
  silent : (calls .draw).requests = [] ∧ (calls .describe).requests = []
  /-- Rendering asks no server if the format is none or there is nothing to render. -/
  silent_render :
    (∃ errors, formatSettings s format = .error errors) ∨
      (∃ f, (Service.ofSettings s).diagram source = .error (.failure f)) →
    (calls .render).requests = []

/-! ## Calls -/

theorem ofName?_name (t : Tool) : ofName? t.name = some t := by
  cases t <;> decide

/-- A call by name with the code runs the tool. -/
theorem call_eq_run (t : Tool) (s : Settings) {source : String}
    {arguments : List (String × Value)} (h : arguments.lookup code.name = some (.text source))
    (server : Server) :
    call (some s) t.name arguments server =
      t.run s source ((arguments.lookup Tool.format.name).getD .null) server := by
  simp only [call, ofName?_name, h]

/-! ## Runs -/

section Runs

variable {s s' : Settings} {source : String} {format : Value} {server : Server}

theorem draw_of_refusal {kind : FailureKind} (h : Service.refusal? source = some kind) :
    (run .draw s source format server).result = .ok (failureAnswer kind.message) := by
  simp only [run, Service.diagram_of_refusal s h, ← Service.message_of_refusal h]
  rfl

theorem describe_of_refusal {kind : FailureKind} (h : Service.refusal? source = some kind) :
    (run .describe s source format server).result = .ok (failureAnswer kind.message) := by
  simp only [run, Service.parse_ofSettings, h, ← Service.message_of_refusal h]
  rfl

theorem draw_of_diagram {diagram : String} (h : Service.refusal? source = none)
    (hdiagram : Diagram.render (Graph.ofSource source) = .ok diagram) :
    (run .draw s source format server).result = .ok (diagramAnswer diagram) := by
  simp only [run, Service.diagram_of_render s h hdiagram]
  rfl

theorem describe_of_graph (h : Service.refusal? source = none) :
    (run .describe s source format server).result = .ok (Graph.ofSource source).describe := by
  simp only [run, Service.parse_ofSettings, h]
  rfl

theorem requests_render (h : formatSettings s format = .ok s') :
    (run .render s source format server).requests =
      ((Service.ofSettings s').generate source true server).requests := by
  simp only [run, h]

theorem render_eq_ok_iff (h : formatSettings s format = .ok s') {answer : Value} :
    (run .render s source format server).result = .ok answer ↔
      ∃ r, ((Service.ofSettings s').generate source true server).outcome = .ok r ∧
        runAnswer r = answer := by
  simp only [run, h]
  cases ((Service.ofSettings s').generate source true server).outcome with
  | error e => simp
  | ok r => simp

theorem failureAnswer_inj {m m' : String} : failureAnswer m = failureAnswer m' ↔ m = m' := by
  simp [failureAnswer, Value.record]

theorem diagramAnswer_inj {d d' : String} : diagramAnswer d = diagramAnswer d' ↔ d = d' := by
  simp [diagramAnswer, Value.record]

theorem diagramAnswer_ne_failureAnswer (diagram message : String) :
    diagramAnswer diagram ≠ failureAnswer message := by
  simp [diagramAnswer, failureAnswer, Value.record]

theorem describe_ne_failureAnswer (g : Graph) (message : String) :
    g.describe ≠ failureAnswer message := by
  simp [Graph.describe, failureAnswer, Value.record]

theorem requests_render_of_error {errors : List FieldError}
    (h : formatSettings s format = .error errors) :
    (run .render s source format server).requests = [] := by
  simp only [run, h]

/-- Rendering a refused text tells the refusal without a request, whatever the settings. -/
theorem render_of_refusal {kind : FailureKind} (h : Service.refusal? source = some kind)
    (hformat : formatSettings s format = .ok s') :
    (run .render s source format server).requests = [] ∧
      (run .render s source format server).result = .ok (noImageAnswer kind.message .null) := by
  obtain ⟨hrequests, houtcome⟩ := Service.generate_of_refusal s' server h true
  rw [requests_render hformat, render_eq_ok_iff hformat]
  exact ⟨hrequests, _, houtcome, rfl⟩

/-- Rendering a text that has a diagram shows the diagram, with an image or with the reason why
there is none. -/
theorem render_of_diagram {diagram : String} {answer : Value}
    (h : Service.refusal? source = none)
    (hdiagram : Diagram.render (Graph.ofSource source) = .ok diagram)
    (hformat : formatSettings s format = .ok s')
    (hanswer : (run .render s source format server).result = .ok answer) :
    (∃ message, answer = noImageAnswer ("Render error: " ++ message) (.text diagram)) ∨
      ∃ last, LastAnswer server (run .render s source format server).requests last ∧
        answer = imageAnswer diagram s'.outputFormat.mediaType last.body := by
  obtain ⟨result, houtcome, rfl⟩ := (render_eq_ok_iff hformat).mp hanswer
  obtain ⟨shape, hshaped⟩ := Service.exists_shaped_of_image h hdiagram houtcome
  rw [requests_render hformat]
  generalize ((Service.ofSettings s').generate source true server).requests = requests at *
  cases hshaped with
  | refused hrefusal =>
      rw [h] at hrefusal
      cases hrefusal
  | rendered _ hdiagram' hfinal =>
      obtain ⟨url, -, hrequests, hresult⟩ := hfinal
      cases hdiagram.symm.trans hdiagram'
      rw [← hrequests]
      exact Or.inr ⟨_, fetch_lastAnswer hresult, rfl⟩
  | rejected _ hdiagram' =>
      cases hdiagram.symm.trans hdiagram'
      exact Or.inl ⟨_, rfl⟩
  | unanswered _ hdiagram' =>
      cases hdiagram.symm.trans hdiagram'
      exact Or.inl ⟨_, rfl⟩

end Runs

/-! ## Agreement -/

section Agreement

variable (s : Settings) {source : String} (format : Tool → Value) (server : Tool → Server)

theorem agreement_of_refusal {kind : FailureKind} (h : Service.refusal? source = some kind) :
    Agreement s source (format .render) (server .render)
      fun t => t.run s source (format t) (server t) where
  failure_iff message := by
    rw [draw_of_refusal h, describe_of_refusal h]
  raised_iff message := by
    rw [draw_of_refusal h, Service.diagram_of_refusal s h, Except.ok.injEq, failureAnswer_inj,
      ← Service.message_of_refusal h]
    constructor
    · intro hmessage
      exact ⟨_, rfl, hmessage⟩
    · rintro ⟨f, hf, hmessage⟩
      cases hf
      exact hmessage
  drawn hnot := absurd (draw_of_refusal h) (hnot _)
  rendered_failure message s' hmessage hformat := by
    rw [draw_of_refusal h, Except.ok.injEq, failureAnswer_inj] at hmessage
    rw [(render_of_refusal h hformat).2, ← hmessage]
  rendered_diagram diagram s' answer hdraw := by
    rw [draw_of_refusal h, Except.ok.injEq] at hdraw
    exact absurd hdraw.symm (diagramAnswer_ne_failureAnswer _ _)
  silent := ⟨rfl, rfl⟩
  silent_render _ := by
    cases hformat : formatSettings s (format .render) with
    | error errors => exact requests_render_of_error hformat
    | ok s' => exact (render_of_refusal h hformat).1

theorem agreement_of_diagram {diagram : String} (h : Service.refusal? source = none)
    (hdiagram : Diagram.render (Graph.ofSource source) = .ok diagram) :
    Agreement s source (format .render) (server .render)
      fun t => t.run s source (format t) (server t) where
  failure_iff message := by
    rw [draw_of_diagram h hdiagram, describe_of_graph h, Except.ok.injEq, Except.ok.injEq]
    exact iff_of_false (diagramAnswer_ne_failureAnswer _ _) (describe_ne_failureAnswer _ _)
  raised_iff message := by
    rw [draw_of_diagram h hdiagram, Service.diagram_of_render s h hdiagram, Except.ok.injEq]
    refine iff_of_false (diagramAnswer_ne_failureAnswer _ _) ?_
    rintro ⟨f, hf, -⟩
    cases hf
  drawn _ := by
    have hgraph : (Service.ofSettings s).parse source = .ok (Graph.ofSource source) := by
      rw [Service.parse_ofSettings, h]
    exact ⟨_, _, hgraph, hdiagram, draw_of_diagram h hdiagram, describe_of_graph h⟩
  rendered_failure message s' hmessage := by
    rw [draw_of_diagram h hdiagram, Except.ok.injEq] at hmessage
    exact absurd hmessage (diagramAnswer_ne_failureAnswer _ _)
  rendered_diagram diagram' s' answer hdraw hformat hanswer := by
    rw [draw_of_diagram h hdiagram, Except.ok.injEq, diagramAnswer_inj] at hdraw
    subst hdraw
    exact render_of_diagram h hdiagram hformat hanswer
  silent := ⟨rfl, rfl⟩
  silent_render := by
    rintro (⟨errors, hformat⟩ | ⟨f, hf⟩)
    · exact requests_render_of_error hformat
    · rw [Service.diagram_of_render s h hdiagram] at hf
      cases hf

end Agreement

/-- **The tools agree** on every source text, with each other and with the service, whatever else
they are called with and however their servers reply. -/
theorem agreement_call (s : Settings) (source : String)
    (arguments : Tool → List (String × Value)) (server : Tool → Server)
    (hcode : ∀ t, (arguments t).lookup code.name = some (.text source)) :
    Agreement s source (((arguments .render).lookup Tool.format.name).getD .null) (server .render)
      fun t => call (some s) t.name (arguments t) (server t) := by
  have hcall : (fun t => call (some s) t.name (arguments t) (server t)) = fun t =>
      t.run s source (((arguments t).lookup Tool.format.name).getD .null) (server t) :=
    funext fun t => call_eq_run t s (hcode t) (server t)
  rw [hcall]
  let format (t : Tool) : Value := ((arguments t).lookup Tool.format.name).getD .null
  cases h : Service.refusal? source with
  | some kind => exact agreement_of_refusal s format server h
  | none =>
      obtain ⟨diagram, hdiagram⟩ := Service.exists_diagram source
      exact agreement_of_diagram s format server h hdiagram

/-- Calls with a format in another case and against a server that does not answer. -/
theorem agreement_call_png :
    let source := "type T struct \x7b\x7d"
    let arguments : List (String × Value) := [("format", .text "PNG"), ("code", .text source)]
    arguments.lookup code.name = some (.text source) ∧
      Agreement {} source (.text "PNG") (fun _ => .failure "timed out") fun t =>
        call (some {}) t.name arguments fun _ => .failure "timed out" := by
  intro source arguments
  have hcode : arguments.lookup code.name = some (.text source) := rfl
  exact ⟨hcode, agreement_call {} source (fun _ => arguments) (fun _ _ => .failure "timed out")
    fun _ => hcode⟩

end TypeGraph.Tool
