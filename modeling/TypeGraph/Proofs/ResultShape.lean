import Mathlib.Logic.ExistsUnique
import TypeGraph.Proofs.DiagramReader
import TypeGraph.Service

/-!
# The shapes of a result

A run with any settings that returns gives a result of one of four shapes: a refusal of the source
text, a diagram alone, a diagram with its image, or a diagram with the reason why there is no image.
Which one it is can be told from the source text, from whether an image was asked for, and from what
the exchange with the server ended with.  The settings decide where the image is asked for and which
format it has, and nothing else.
-/

namespace TypeGraph

open TypeGraph.Source

/-! ## Declarations and declared names -/

/-- Only declarations declare: a method or an embedding makes an entity, but no declared one. -/
theorem Graph.declared_ofSource_eq_nil_iff (source : String) :
    (Graph.ofSource source).declared = [] ↔ declarations (stripComments source.toList) = [] := by
  have hdeclared : (Inventory.ofSource source).declared = [] ↔
      declarations (stripComments source.toList) = [] := List.map_eq_nil_iff
  rw [Graph.declared, Graph.entities_ofSource, List.map_eq_nil_iff, List.filter_eq_nil_iff,
    ← hdeclared]
  generalize Inventory.ofSource source = v
  constructor
  · intro hnone
    rw [List.eq_nil_iff_forall_not_mem]
    intro c hc
    have hname : c.name ∈ v.names := Inventory.mem_names.mpr (Or.inl ⟨c, hc, Or.inl rfl⟩)
    have hentity : (v.entity c.name).declared = true := by
      simpa [Inventory.entity] using ⟨c, hc, rfl⟩
    exact hnone _ (List.mem_map.mpr ⟨c.name, hname, rfl⟩) hentity
  · intro hnone e he
    obtain ⟨name, -, rfl⟩ := List.mem_map.mp he
    simp [Inventory.entity, hnone]

/-! ## The last reply of an exchange -/

/-- The answer that the last of some requests was given. -/
def LastAnswer (server : Server) (requests : List Request) (answer : Answer) : Prop :=
  ∃ n, requests.length = n + 1 ∧ server n = .answer answer

/-- One request of an exchange that ends in an answer: either this is the answer, or the exchange
goes on from the address of a redirect. -/
theorem fetchFrom_ok_cases {server : Server} {left : Nat} {jar : CookieJar} {u : Url}
    {answer : Answer} (h : (fetchFrom server left jar u).result = .ok answer) :
    ∃ request,
      ((fetchFrom server left jar u).requests = [request] ∧ server 0 = .answer answer) ∨
      ∃ (rest : Nat) (jar' : CookieJar) (target : Url), left = rest + 1 ∧
        (fetchFrom server left jar u).requests =
          request :: (fetchFrom (server.after 1) rest jar' target).requests ∧
        (fetchFrom (server.after 1) rest jar' target).result = .ok answer := by
  rw [fetchFrom] at h ⊢
  cases hhost : u.hostOf with
  | error e =>
      rw [hhost] at h
      cases h
  | ok host =>
      rw [hhost] at h
      refine ⟨u.request host, ?_⟩
      cases hreply : server 0 with
      | failure text =>
          simp only [hreply] at h
          cases h
      | unsendable text =>
          simp only [hreply] at h
          cases h
      | answer first =>
          simp only [hreply] at h ⊢
          cases hfollow : u.follow jar first with
          | error e =>
              simp only [hfollow] at h
              cases h
          | ok next =>
              obtain ⟨jar', _ | target⟩ := next
              · simp only [hfollow] at h ⊢
                cases h
                exact Or.inl (by simp)
              · cases left with
                | zero =>
                    simp only [hfollow] at h
                    cases h
                | succ rest =>
                    simp only [hfollow] at h ⊢
                    exact Or.inr ⟨rest, jar', target, rfl, rfl, h⟩

/-- An exchange that ends in an answer ends in the answer to its last request. -/
theorem fetchFrom_lastAnswer {server : Server} {left : Nat} {jar : CookieJar} {u : Url}
    {answer : Answer} (h : (fetchFrom server left jar u).result = .ok answer) :
    LastAnswer server (fetchFrom server left jar u).requests answer := by
  induction left generalizing server jar u with
  | zero =>
      obtain ⟨request, ⟨hrequests, hreply⟩ | ⟨rest, -, -, hleft, -⟩⟩ := fetchFrom_ok_cases h
      · exact ⟨0, by rw [hrequests]; rfl, hreply⟩
      · exact absurd hleft.symm (Nat.succ_ne_zero rest)
  | succ left ih =>
      obtain ⟨request, ⟨hrequests, hreply⟩ | ⟨rest, jar', target, hleft, hrequests, hresult⟩⟩ :=
        fetchFrom_ok_cases h
      · exact ⟨0, by rw [hrequests]; rfl, hreply⟩
      · obtain rfl : left = rest := Nat.succ.inj hleft
        obtain ⟨n, hlength, hreply⟩ := ih hresult
        refine ⟨n + 1, by rw [hrequests, List.length_cons, hlength], ?_⟩
        rw [← hreply, Server.after, Nat.add_comm]

theorem fetch_lastAnswer {server : Server} {u : Url} {answer : Answer}
    (h : (fetch server u).result = .ok answer) :
    LastAnswer server (fetch server u).requests answer := by
  rw [fetch] at h ⊢
  cases hplace : u.checkPlace with
  | error e =>
      rw [hplace] at h
      cases h
  | ok _ =>
      rw [hplace] at h
      exact fetchFrom_lastAnswer h

namespace Service

/-! ## Refusals -/

/-- What keeps a source text from being drawn, if anything does. -/
def refusal? (source : String) : Option FailureKind :=
  if Text.isBlankText source then some .emptyInput
  else if declarations (stripComments source.toList) = [] then some .noDeclarations
  else none

theorem message_of_refusal {source : String} {kind : FailureKind}
    (h : refusal? source = some kind) : Failure.message ⟨kind, none⟩ = kind.message := by
  rw [refusal?] at h
  split at h
  · cases h
    rfl
  · split at h
    · cases h
      rfl
    · cases h

section Extraction

variable (s : Settings) {source : String}

theorem parse_ofSettings (source : String) :
    (ofSettings s).parse source =
      match refusal? source with
      | some kind => .error (.failure ⟨kind, none⟩)
      | none => .ok (Graph.ofSource source) := by
  have hparser : (ofSettings s).parsers.get? (ofSettings s).language = some goParser := rfl
  rw [parse, extract, hparser, refusal?]
  cases Text.isBlankText source with
  | true => rfl
  | false =>
      show (if (Graph.ofSource source).declared = [] then _ else _ : _ × _).1 = _
      by_cases hnone : declarations (stripComments source.toList) = []
      · rw [if_pos ((Graph.declared_ofSource_eq_nil_iff source).mpr hnone), if_pos hnone]
        rfl
      · rw [if_neg (mt (Graph.declared_ofSource_eq_nil_iff source).mp hnone), if_neg hnone]
        rfl

theorem diagram_of_refusal {kind : FailureKind} (h : refusal? source = some kind) :
    (ofSettings s).diagram source = .error (.failure ⟨kind, none⟩) := by
  rw [diagram, parse_ofSettings, h]
  rfl

theorem diagram_of_render {text : String} (h : refusal? source = none)
    (htext : Diagram.render (Graph.ofSource source) = .ok text) :
    (ofSettings s).diagram source = .ok text := by
  rw [diagram, parse_ofSettings, h]
  show draw (Graph.ofSource source) = _
  rw [draw, htext]

end Extraction

/-- The graph of a source text has a diagram: it has only edges that can be shown. -/
theorem exists_diagram (source : String) :
    ∃ text, Diagram.render (Graph.ofSource source) = .ok text := by
  obtain ⟨text, htext, -⟩ := Diagram.exists_render (Graph.legible_ofSource source)
  exact ⟨text, htext⟩

/-! ## The four shapes -/

inductive Shape where
  | refused
  | drawn
  | rendered
  | failed
deriving DecidableEq, Repr

/-- The exchange for the image of a diagram: the requests that it made and what it ended with. -/
def Exchanged (s : Settings) (diagram : String) (server : Server) (requests : List Request)
    (final : Except FetchError Answer) : Prop :=
  ∃ url, s.renderer.target diagram = .ok url ∧ (fetch server url).requests = requests ∧
    (fetch server url).result = final

/-- How a result comes about, with the requests made on the way.  The text of an answer other than
an image is trimmed, and its status stands in for a blank one. -/
inductive Shaped (s : Settings) (source : String) (server : Server) :
    Bool → Shape → List Request → DiagramResult → Prop
  | refused {render : Bool} {kind : FailureKind} (h : refusal? source = some kind) :
      Shaped s source server render .refused [] { error := some kind.message }
  | drawn {diagram : String} (h : refusal? source = none)
      (hdiagram : Diagram.render (Graph.ofSource source) = .ok diagram) :
      Shaped s source server false .drawn [] { diagram := some diagram }
  | rendered {diagram : String} {requests : List Request} {answer : Answer}
      (h : refusal? source = none)
      (hdiagram : Diagram.render (Graph.ofSource source) = .ok diagram)
      (hfinal : Exchanged s diagram server requests (.ok answer)) (hstatus : answer.status = 200) :
      Shaped s source server true .rendered requests
        { diagram := some diagram
          artifact := some answer.body
          mediaType := some s.outputFormat.mediaType }
  | rejected {diagram text : String} {requests : List Request} {answer : Answer}
      (h : refusal? source = none)
      (hdiagram : Diagram.render (Graph.ofSource source) = .ok diagram)
      (hfinal : Exchanged s diagram server requests (.ok answer)) (hstatus : answer.status ≠ 200)
      (htext : answer.charset.decode answer.body = .ok text) :
      Shaped s source server true .failed requests
        { diagram := some diagram
          error := some ("Render error: " ++
            if Text.strip text = "" then "renderer returned " ++ toString answer.status
            else Text.strip text) }
  | unanswered {diagram text : String} {requests : List Request}
      (h : refusal? source = none)
      (hdiagram : Diagram.render (Graph.ofSource source) = .ok diagram)
      (hfinal : Exchanged s diagram server requests (.error (.transport text))) :
      Shaped s source server true .failed requests
        { diagram := some diagram
          error := some ("Render error: " ++ ("renderer request failed: " ++ text)) }

def Shape.ofResult (r : DiagramResult) : Shape :=
  if r.diagram.isNone then .refused
  else if r.error.isSome then .failed
  else if r.artifact.isSome then .rendered
  else .drawn

theorem Shaped.shape_eq {s : Settings} {source : String} {server : Server} {render : Bool}
    {shape : Shape} {requests : List Request} {result : DiagramResult}
    (h : Shaped s source server render shape requests result) : shape = Shape.ofResult result := by
  cases h <;> rfl

/-! ## Runs -/

section Runs

variable {s : Settings} {source diagram : String} {server : Server}

theorem generate_of_refusal (s : Settings) (server : Server) {kind : FailureKind}
    (h : refusal? source = some kind) (render : Bool) :
    ((ofSettings s).generate source render server).requests = [] ∧
      ((ofSettings s).generate source render server).outcome =
        .ok { error := some kind.message } := by
  rw [generate, diagram_of_refusal s h, ← message_of_refusal h]
  exact ⟨rfl, rfl⟩

theorem refusalMessage_eq_ok_iff {answer : Answer} {message : String} :
    refusalMessage answer = .ok message ↔
      ∃ text, answer.charset.decode answer.body = .ok text ∧
        message = if Text.strip text = "" then "renderer returned " ++ toString answer.status
          else Text.strip text := by
  rw [refusalMessage]
  generalize answer.charset.decode answer.body = decoded
  constructor
  · intro h
    cases decoded with
    | error e => cases h
    | ok text => exact ⟨text, rfl, (Except.ok.inj h).symm⟩
  · rintro ⟨text, rfl, hmessage⟩
    exact congrArg Except.ok hmessage.symm

/-- A run that asks for an image is decided by the end of the exchange alone. -/
theorem generate_of_exchanged {requests : List Request} {final : Except FetchError Answer}
    (h : (ofSettings s).diagram source = .ok diagram)
    (hfinal : Exchanged s diagram server requests final) :
    ((ofSettings s).generate source true server).requests = requests ∧
      ((ofSettings s).generate source true server).outcome =
        match (motive := Except FetchError Answer → Except ServiceError DiagramResult) final with
        | .error (.exchange e) => .error (.exchange e)
        | .error (.transport text) =>
          .ok
            { diagram := some diagram
              error := some ("Render error: " ++ ("renderer request failed: " ++ text)) }
        | .ok answer =>
          if answer.status = 200 then
            .ok
              { diagram := some diagram
                artifact := some answer.body
                mediaType := some s.outputFormat.mediaType }
          else
            match refusalMessage answer with
            | .error e => .error (.exchange e)
            | .ok message =>
              .ok { diagram := some diagram, error := some ("Render error: " ++ message) } := by
  obtain ⟨url, htarget, hrequests, hresult⟩ := hfinal
  have hrenderer : (ofSettings s).renderer = s.renderer := rfl
  have hformat : s.renderer.format = s.outputFormat := rfl
  rw [generate, h, hrenderer]
  dsimp only [Bool.not_true]
  rw [Renderer.render, htarget, hformat]
  dsimp only
  generalize fetch server url = fetched at hrequests hresult ⊢
  obtain ⟨requests, final⟩ := fetched
  subst hrequests hresult
  dsimp only
  match final with
  | .error (.exchange e) => exact ⟨rfl, rfl⟩
  | .error (.transport text) => exact ⟨rfl, rfl⟩
  | .ok answer =>
      dsimp only
      by_cases hstatus : answer.status = 200
      · rw [if_pos hstatus, if_pos hstatus]
        exact ⟨rfl, rfl⟩
      · rw [if_neg hstatus, if_neg hstatus]
        cases refusalMessage answer with
        | error e => exact ⟨rfl, rfl⟩
        | ok message => exact ⟨rfl, rfl⟩

/-- A run that asks for an image and returns has had an exchange. -/
theorem exists_exchanged {result : DiagramResult} (h : (ofSettings s).diagram source = .ok diagram)
    (hresult : ((ofSettings s).generate source true server).outcome = .ok result) :
    ∃ final, Exchanged s diagram server
      ((ofSettings s).generate source true server).requests final := by
  have hrenderer : (ofSettings s).renderer = s.renderer := rfl
  cases htarget : s.renderer.target diagram with
  | error e =>
      rw [generate, h, hrenderer] at hresult
      dsimp only [Bool.not_true] at hresult
      rw [Renderer.render, htarget] at hresult
      cases hresult
  | ok url =>
      have hexchanged : Exchanged s diagram server (fetch server url).requests
          (fetch server url).result := ⟨url, htarget, rfl, rfl⟩
      rw [(generate_of_exchanged h hexchanged).1]
      exact ⟨_, hexchanged⟩

/-- A run that asks for an image and returns has one of the last two shapes. -/
theorem exists_shaped_of_image {result : DiagramResult} (hnone : refusal? source = none)
    (hdiagram : Diagram.render (Graph.ofSource source) = .ok diagram)
    (hresult : ((ofSettings s).generate source true server).outcome = .ok result) :
    ∃ shape, Shaped s source server true shape
      ((ofSettings s).generate source true server).requests result := by
  have h := diagram_of_render s hnone hdiagram
  obtain ⟨final, hfinal⟩ := exists_exchanged h hresult
  rw [(generate_of_exchanged h hfinal).2] at hresult
  match final with
  | .error (.exchange e) => cases hresult
  | .error (.transport text) =>
      cases hresult
      exact ⟨_, .unanswered hnone hdiagram hfinal⟩
  | .ok answer =>
      dsimp only at hresult
      by_cases hstatus : answer.status = 200
      · rw [if_pos hstatus] at hresult
        cases hresult
        exact ⟨_, .rendered hnone hdiagram hfinal hstatus⟩
      · rw [if_neg hstatus] at hresult
        cases hmessage : refusalMessage answer with
        | error e =>
            rw [hmessage] at hresult
            cases hresult
        | ok message =>
            rw [hmessage] at hresult
            cases hresult
            obtain ⟨text, htext, rfl⟩ := refusalMessage_eq_ok_iff.mp hmessage
            exact ⟨_, .rejected hnone hdiagram hfinal hstatus htext⟩

/-- What a shape says of a run is what the run does. -/
theorem Shaped.generate_eq {render : Bool} {shape : Shape} {requests : List Request}
    {result : DiagramResult} (h : Shaped s source server render shape requests result) :
    ((ofSettings s).generate source render server).outcome = .ok result ∧
      ((ofSettings s).generate source render server).requests = requests := by
  cases h with
  | refused hrefusal => exact (generate_of_refusal s server hrefusal render).symm
  | drawn hnone hdiagram =>
      rw [generate, diagram_of_render s hnone hdiagram]
      exact ⟨rfl, rfl⟩
  | rendered hnone hdiagram hfinal hstatus =>
      obtain ⟨hrequests, houtcome⟩ :=
        generate_of_exchanged (diagram_of_render s hnone hdiagram) hfinal
      exact ⟨houtcome.trans (if_pos hstatus), hrequests⟩
  | rejected hnone hdiagram hfinal hstatus htext =>
      obtain ⟨hrequests, houtcome⟩ :=
        generate_of_exchanged (diagram_of_render s hnone hdiagram) hfinal
      refine ⟨houtcome.trans ((if_neg hstatus).trans ?_), hrequests⟩
      rw [refusalMessage_eq_ok_iff.mpr ⟨_, htext, rfl⟩]
  | unanswered hnone hdiagram hfinal =>
      exact (generate_of_exchanged (diagram_of_render s hnone hdiagram) hfinal).symm

end Runs

/-- **The shapes of a result.**  A run returns a result after some requests exactly if the result
has, by those requests, one of the four shapes; and then it has no other. -/
theorem generate_returns_iff_shaped (s : Settings) (source : String) (render : Bool)
    (server : Server) (requests : List Request) (result : DiagramResult) :
    (((ofSettings s).generate source render server).outcome = .ok result ∧
        ((ofSettings s).generate source render server).requests = requests) ↔
      ∃! shape, Shaped s source server render shape requests result := by
  constructor
  · rintro ⟨hresult, rfl⟩
    refine existsUnique_of_exists_of_unique ?_ fun _ _ h h' => h.shape_eq.trans h'.shape_eq.symm
    cases hrefusal : refusal? source with
    | some kind =>
        obtain ⟨hrequests, houtcome⟩ := generate_of_refusal s server hrefusal render
        rw [houtcome] at hresult
        cases hresult
        rw [hrequests]
        exact ⟨_, .refused hrefusal⟩
    | none =>
        obtain ⟨diagram, hdiagram⟩ := exists_diagram source
        cases render with
        | true => exact exists_shaped_of_image hrefusal hdiagram hresult
        | false =>
            rw [generate, diagram_of_render s hrefusal hdiagram] at hresult ⊢
            cases hresult
            exact ⟨_, .drawn hrefusal hdiagram⟩
  · rintro ⟨shape, hshaped, -⟩
    exact hshaped.generate_eq

end Service

end TypeGraph
