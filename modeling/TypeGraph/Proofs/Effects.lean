import TypeGraph.Command.Run
import TypeGraph.Proofs.FileWriting

/-!
# What a run leaves behind

A run of `generate` prints, asks the server and writes one file.  A failure that it reports ends it
with exit code 1 and leaves every file as it was; by then the diagram is printed exactly if there
was something to draw.  A run that was told where to put its image, and has one, leaves exactly that
image there and touches nothing else.  A run that was not told so neither asks the server nor
writes.

A run reports a file only if it changed it, so what stands behind a run is what it wrote in front of
what stood there before.

The console is taken to be wide enough for every line and the texts to have no codes for pictures.
Both bear on the looks of what is printed, and on nothing that is said here: whether the diagram is
printed, the exit code, the files and the requests are the same on a narrow console and for texts
with such codes.
-/

namespace TypeGraph

namespace Service

/-! ## Results by the parts of a service -/

/-- How a run of a service returns a result: the extraction or the rendering fails, or neither. -/
theorem generate_outcome_eq_ok_iff {s : Service} {source : String} {render : Bool}
    {server : Server} {result : DiagramResult} :
    (s.generate source render server).outcome = .ok result ↔
      (∃ failure, s.parse source = .error (.failure failure) ∧
        result = { error := some failure.message }) ∨
      ∃ graph diagram, s.parse source = .ok graph ∧ Diagram.render graph = .ok diagram ∧
        (render = false ∧ result = { diagram := some diagram } ∨
          render = true ∧
            ((∃ image, (s.renderer.render diagram server).result = .ok image ∧
              result =
                { diagram := some diagram
                  artifact := some image.content
                  mediaType := some image.mediaType }) ∨
            ∃ message, (s.renderer.render diagram server).result = .error (.refused message) ∧
              result =
                { diagram := some diagram
                  error := some (Failure.message ⟨.rendering, some message⟩) })) := by
  cases hgraph : s.parse source with
  | error e =>
      have hdiagram : s.diagram source = .error e := by
        rw [diagram, hgraph]
        rfl
      rw [generate, hdiagram]
      cases e <;> simp [Run.close, eq_comm]
  | ok graph =>
      have hdraw : s.diagram source = draw graph := by
        rw [diagram, hgraph]
        rfl
      rw [generate, hdraw, draw]
      cases hdiagram : Diagram.render graph with
      | error type => simp [hdiagram, Run.close]
      | ok diagram =>
          cases render with
          | false => simpa [hdiagram, Run.close] using eq_comm
          | true =>
              cases hrendered : (s.renderer.render diagram server).result with
              | ok image => simpa [hdiagram, hrendered, Run.close] using eq_comm
              | error e =>
                  cases e with
                  | exchange e => simp [hdiagram, hrendered, Run.close, ServiceError.ofRendering]
                  | refused message =>
                      simpa [hdiagram, hrendered, Run.close, ServiceError.ofRendering]
                        using eq_comm

/-- A run that is asked for no image asks for nothing. -/
theorem requests_generate_false (s : Service) (source : String) (server : Server) :
    (s.generate source false server).requests = [] := by
  rw [generate]
  cases s.diagram source with
  | error e => cases e <;> rfl
  | ok diagram => rfl

end Service

namespace Command

/-! ## Ends of a run -/

def World.treeAfter (world : World) (o : Outcome) : FileTree :=
  { world.tree with files := o.written ++ world.tree.files }

namespace Outcome

/-- An outcome that ends with exit code 1 and adds nothing to another but on standard error. -/
structure Stopped (o o' : Outcome) : Prop where
  exitCode : o'.exitCode = 1
  stdout : o'.stdout = o.stdout
  written : o'.written = o.written
  requests : o'.requests = o.requests

theorem stopped_fail (o : Outcome) (c : Crash) : o.Stopped (o.fail c) := ⟨rfl, rfl, rfl, rfl⟩

/-- Marked-up text that cannot be shown ends a run with the same exit code. -/
theorem stopped_printMarkup (o : Outcome) (text : String) :
    o.Stopped (o.printMarkup text (·.exit 1)) := by
  rw [printMarkup]
  cases Console.showMarkup text with
  | error e => exact stopped_fail o (.markup e)
  | ok shown => exact ⟨rfl, rfl, rfl, rfl⟩

theorem stopped_refuse (o : Outcome) (message : String) : o.Stopped (o.refuse message) :=
  stopped_printMarkup o _

/-- Printing and going on changes nothing but standard error, unless the text cannot be shown. -/
theorem written_printMarkup (o : Outcome) (text : String) :
    (o.printMarkup text id).written = o.written := by
  rw [printMarkup]
  cases Console.showMarkup text <;> rfl

theorem exitCode_printMarkup {o : Outcome} {text : String}
    (h : (o.printMarkup text id).crash = none) : (o.printMarkup text id).exitCode = o.exitCode := by
  rw [printMarkup] at h ⊢
  cases hshown : Console.showMarkup text with
  | error e =>
      rw [hshown] at h
      cases h
  | ok shown => rfl

end Outcome

/-! ## What a run goes by -/

section Inputs

variable {world : World} {a : Arguments} {stop : Outcome → Outcome}

def settingsOf (world : World) (a : Arguments) : Except (Outcome → Outcome) (Settings × Nat) :=
  resolveSettings world (a.option? "config") (a.option? "format") (a.option? "verbose").isSome

def sourceOf (world : World) (a : Arguments) : Except (Outcome → Outcome) String :=
  readSource world a.positional.head?

/-- A run is asked for a format that its settings do not take. -/
def FormatRefused (world : World) (a : Arguments) (text : String) (errors : List FieldError) :
    Prop :=
  ∃ s, Settings.load world.tree ((a.option? "config").map FilePath.ofText) = .ok s ∧
    a.option? "format" = some text ∧ text ≠ "" ∧ s.withFormat (.text text) = .error errors

/-- A run takes its source from a path, with something or nothing at it. -/
def SourceAt (world : World) (a : Arguments) (path : FilePath) (entry : FileEntry) : Prop :=
  ∃ text, a.positional.head? = some text ∧ path = FilePath.ofText text ∧ path.text ≠ "-" ∧
    world.tree.get path = .ok entry

theorem settingsOf_of_formatRefused {text : String} {errors : List FieldError}
    (h : FormatRefused world a text errors) :
    settingsOf world a = .error (·.refuse (formatMessage text errors)) := by
  obtain ⟨s, hload, htext, hne, herrors⟩ := h
  rw [settingsOf, resolveSettings, hload, htext]
  dsimp only
  rw [formatSettings.eq_def]
  split
  · contradiction
  · rename_i hempty
    exact absurd (Option.some.inj hempty) hne
  · rename_i text' hsome
    cases hsome
    rw [herrors]
    rfl

/-- Settings that do not come about: a crash, or a format that is refused. -/
theorem settingsOf_stop_cases (h : settingsOf world a = .error stop) :
    (∃ c, stop = (·.fail c)) ∨
      ∃ text errors, FormatRefused world a text errors ∧
        stop = (·.refuse (formatMessage text errors)) := by
  rw [settingsOf, resolveSettings] at h
  cases hload : Settings.load world.tree ((a.option? "config").map FilePath.ofText) with
  | error e =>
      rw [hload] at h
      cases h
      exact Or.inl ⟨_, rfl⟩
  | ok s =>
      rw [hload] at h
      dsimp only at h
      cases hformat : formatSettings s (a.option? "format") with
      | error stop' =>
          rw [hformat] at h
          cases h
          rw [formatSettings.eq_def] at hformat
          split at hformat
          · cases hformat
          · cases hformat
          · rename_i text hempty htext
            split at hformat
            · cases hformat
            · rename_i errors herrors
              cases hformat
              exact Or.inr ⟨text, errors, ⟨s, hload, htext, hempty, herrors⟩, rfl⟩
      | ok s' =>
          cases hlevel : threshold s' (a.option? "verbose").isSome with
          | ok level =>
              rw [hformat] at h
              simp [bind, Except.bind, hlevel, pure, Except.pure] at h
          | error c =>
              rw [hformat] at h
              simp only [bind, Except.bind, hlevel, throw, throwThe, MonadExceptOf.throw,
                Except.error.injEq] at h
              exact Or.inl ⟨c, h.symm⟩

theorem sourceOf_of_missing {path : FilePath} (h : SourceAt world a path .missing) :
    sourceOf world a =
      .error (·.printMarkup ("[red]Source file not found:[/red] " ++ path.text) (·.exit 1)) := by
  obtain ⟨text, htext, rfl, hdash, hget⟩ := h
  rw [sourceOf, htext, readSource.eq_def]
  dsimp only
  rw [if_neg hdash, hget]

theorem sourceOf_of_undecodable {path : FilePath} {bytes : List UInt8}
    (h : SourceAt world a path (.file bytes)) (hbytes : decodeText? bytes = none) :
    sourceOf world a =
      .error (·.printMarkup ("[red]Source file is not valid UTF-8:[/red] " ++ path.text)
        (·.exit 1)) := by
  obtain ⟨text, htext, rfl, hdash, hget⟩ := h
  rw [sourceOf, htext, readSource.eq_def]
  dsimp only
  rw [if_neg hdash, hget]
  dsimp only
  rw [hbytes]

/-- A source text that does not come about: a crash, or nothing to read at a path, or nothing that
is text. -/
theorem sourceOf_stop_cases (h : sourceOf world a = .error stop) :
    (∃ c, stop = (·.fail c)) ∨ (∃ path, SourceAt world a path .missing) ∨
      ∃ path bytes, SourceAt world a path (.file bytes) ∧ decodeText? bytes = none := by
  rw [sourceOf, readSource.eq_def] at h
  dsimp only at h
  cases htext : a.positional.head? with
  | none =>
      rw [htext] at h
      cases h
  | some text =>
      rw [htext] at h
      dsimp only at h
      by_cases hdash : (FilePath.ofText text).text = "-"
      · rw [if_pos hdash] at h
        cases h
      · rw [if_neg hdash] at h
        cases hget : world.tree.get (FilePath.ofText text) with
        | error e =>
            rw [hget] at h
            cases h
            exact Or.inl ⟨_, rfl⟩
        | ok entry =>
            rw [hget] at h
            have hat : SourceAt world a (FilePath.ofText text) entry :=
              ⟨text, htext, rfl, hdash, hget⟩
            cases entry with
            | missing => exact Or.inr (Or.inl ⟨_, hat⟩)
            | directory =>
                cases h
                exact Or.inl ⟨_, rfl⟩
            | file bytes =>
                dsimp only at h
                cases hdecode : decodeText? bytes with
                | some text =>
                    rw [hdecode] at h
                    cases h
                | none => exact Or.inr (Or.inr ⟨_, bytes, hat, hdecode⟩)

theorem stopped_of_settingsOf (h : settingsOf world a = .error stop) (o : Outcome) :
    o.Stopped (stop o) := by
  rcases settingsOf_stop_cases h with ⟨c, rfl⟩ | ⟨text, errors, -, rfl⟩
  · exact o.stopped_fail c
  · exact o.stopped_refuse _

theorem stopped_of_sourceOf (h : sourceOf world a = .error stop) (o : Outcome) :
    o.Stopped (stop o) := by
  rcases sourceOf_stop_cases h with ⟨c, rfl⟩ | ⟨path, hat⟩ | ⟨path, bytes, hat, hnone⟩
  · exact o.stopped_fail c
  · rw [sourceOf_of_missing hat] at h
    cases h
    exact o.stopped_printMarkup _
  · rw [sourceOf_of_undecodable hat hnone] at h
    cases h
    exact o.stopped_printMarkup _

end Inputs

/-! ## Images -/

section Images

variable {world : World}

/-- A run that may write its image leaves it at its path, and every other path as it was. -/
theorem treeAfter_writeImage {path name : FilePath} (htarget : world.tree.target path = .ok name)
    (o : Outcome) (image : List UInt8) (mediaType : String) :
    (world.treeAfter (writeImage world o path image mediaType)).get path = .ok (.file image) ∧
      ∀ p, p ≠ name →
        (world.treeAfter (writeImage world o path image mediaType)).find p = world.tree.find p := by
  obtain ⟨hresolve, -, hin⟩ := FileTree.place_of_target htarget
  rw [writeImage, htarget]
  dsimp only
  by_cases hsame : world.tree.find name = .file image
  · rw [if_pos hsame, World.treeAfter, Outcome.written_printMarkup]
    refine ⟨?_, fun p _ => rfl⟩
    show world.tree.get path = _
    rw [FileTree.get, hresolve]
    exact congrArg Except.ok hsame
  · rw [if_neg hsame, World.treeAfter, Outcome.written_printMarkup]
    exact ⟨FileTree.get_write htarget image, fun p hp => FileTree.find_write_of_ne hin image hp⟩

theorem exists_fail_of_writeImage {path : FilePath} {e : FileTree.WriteError}
    (htarget : world.tree.target path = .error e) (o : Outcome) (image : List UInt8)
    (mediaType : String) : ∃ c, writeImage world o path image mediaType = o.fail c := by
  rw [writeImage, htarget]
  cases e with
  | isDirectory => exact ⟨_, rfl⟩
  | path e => exact ⟨_, rfl⟩

/-- Writing an image ends a run only with a crash. -/
theorem exitCode_writeImage {o : Outcome} {path : FilePath} {image : List UInt8}
    {mediaType : String} (h : (writeImage world o path image mediaType).crash = none) :
    (writeImage world o path image mediaType).exitCode = o.exitCode := by
  cases htarget : world.tree.target path with
  | error e =>
      obtain ⟨c, hfail⟩ := exists_fail_of_writeImage htarget o image mediaType
      rw [hfail] at h
      cases h
  | ok name =>
      rw [writeImage, htarget] at h ⊢
      exact Outcome.exitCode_printMarkup h

end Images

/-! ## Runs -/

/-- The outcome of a run of the service, as far as every run of `generate` shows it: the requests,
the log and the diagram. -/
def Outcome.ofRun (level : Nat) (run : Run) (result : DiagramResult) : Outcome :=
  let o : Outcome := ({ requests := run.requests } : Outcome).log level run.log
  match result.diagram with
  | some diagram => o.print (Console.page diagram)
  | none => o

def outputOf (a : Arguments) : Option FilePath := (a.option? "output").map FilePath.ofText

def serviceRun (world : World) (a : Arguments) (s : Settings) (source : String) : Run :=
  (Service.ofSettings s).generate source (outputOf a).isSome world.server

section Runs

variable {world : World} {a : Arguments} {s : Settings} {level : Nat} {source : String}

@[simp] theorem Outcome.exitCode_ofRun (level : Nat) (run : Run) (result : DiagramResult) :
    (Outcome.ofRun level run result).exitCode = 0 := by
  rw [Outcome.ofRun]
  cases result.diagram <;> rfl

@[simp] theorem Outcome.written_ofRun (level : Nat) (run : Run) (result : DiagramResult) :
    (Outcome.ofRun level run result).written = [] := by
  rw [Outcome.ofRun]
  cases result.diagram <;> rfl

@[simp] theorem Outcome.requests_ofRun (level : Nat) (run : Run) (result : DiagramResult) :
    (Outcome.ofRun level run result).requests = run.requests := by
  rw [Outcome.ofRun]
  cases result.diagram <;> rfl

@[simp] theorem Outcome.stdout_ofRun (level : Nat) (run : Run) (result : DiagramResult) :
    (Outcome.ofRun level run result).stdout = (result.diagram.map Console.page).getD "" := by
  rw [Outcome.ofRun]
  cases result.diagram with
  | none => rfl
  | some diagram => exact String.empty_append

theorem generate_of_settings_stop {stop : Outcome → Outcome}
    (h : settingsOf world a = .error stop) : generate world a = stop {} := by
  rw [settingsOf] at h
  rw [generate, h]

theorem generate_of_source_stop {stop : Outcome → Outcome}
    (hsettings : settingsOf world a = .ok (s, level)) (h : sourceOf world a = .error stop) :
    generate world a = stop {} := by
  rw [settingsOf] at hsettings
  rw [sourceOf] at h
  rw [generate, hsettings]
  dsimp only
  rw [h]

/-- A run with settings and a source text goes by the run of the service. -/
theorem generate_of_run (hsettings : settingsOf world a = .ok (s, level))
    (hsource : sourceOf world a = .ok source) :
    generate world a =
      match (serviceRun world a s source).outcome with
      | .error e =>
        (({ requests := (serviceRun world a s source).requests } : Outcome).log level
          (serviceRun world a s source).log).fail (.service e)
      | .ok result =>
        let o := Outcome.ofRun level (serviceRun world a s source) result
        match result.error with
        | some message => o.refuse message
        | none =>
          match outputOf a, result.artifact with
          | some path, some image => writeImage world o path image (result.mediaType.getD "")
          | _, _ => o := by
  rw [settingsOf] at hsettings
  rw [sourceOf] at hsource
  rw [generate, hsettings]
  dsimp only
  rw [hsource]
  rfl

end Runs

/-! ## Reported failures -/

/-- The failures that a run reports, with the graph of its source text if there is one by then. -/
inductive Reported (world : World) (a : Arguments) : Option Graph → Prop
  /-- The format that the call asks for is none. -/
  | format {text : String} {errors : List FieldError} (h : FormatRefused world a text errors) :
      Reported world a none
  /-- There is no source file. -/
  | missing {s : Settings} {level : Nat} {path : FilePath}
      (hsettings : settingsOf world a = .ok (s, level)) (h : SourceAt world a path .missing) :
      Reported world a none
  /-- The source file is no text. -/
  | undecodable {s : Settings} {level : Nat} {path : FilePath} {bytes : List UInt8}
      (hsettings : settingsOf world a = .ok (s, level)) (h : SourceAt world a path (.file bytes))
      (hbytes : decodeText? bytes = none) :
      Reported world a none
  /-- The source text is blank or declares nothing. -/
  | refused {s : Settings} {level : Nat} {source : String} {failure : Failure}
      (hsettings : settingsOf world a = .ok (s, level)) (hsource : sourceOf world a = .ok source)
      (h : (Service.ofSettings s).parse source = .error (.failure failure)) :
      Reported world a none
  /-- The diagram is drawn, but the server has no image of it. -/
  | unrendered {s : Settings} {level : Nat} {source diagram message : String} {graph : Graph}
      (hsettings : settingsOf world a = .ok (s, level)) (hsource : sourceOf world a = .ok source)
      (houtput : (outputOf a).isSome = true)
      (hgraph : (Service.ofSettings s).parse source = .ok graph)
      (hdiagram : Diagram.render graph = .ok diagram)
      (h : ((Service.ofSettings s).renderer.render diagram world.server).result =
        .error (.refused message)) :
      Reported world a (some graph)

/-- What stands on standard output when a failure is reported: the diagram, if there is one. -/
def Shown (stdout : String) : Option Graph → Prop
  | none => stdout = ""
  | some graph => ∃ diagram, Diagram.render graph = .ok diagram ∧ stdout = Console.page diagram

section Failures

variable {world : World} {a : Arguments} {extracted : Option Graph}

/-- A reported failure ends a run that has printed the diagram, if there is one, and has written
nothing. -/
theorem exists_stopped_of_reported (h : Reported world a extracted) :
    ∃ o : Outcome, o.Stopped (generate world a) ∧ o.written = [] ∧ Shown o.stdout extracted := by
  cases h with
  | format h =>
      rw [generate_of_settings_stop (settingsOf_of_formatRefused h)]
      exact ⟨{}, Outcome.stopped_refuse _ _, rfl, rfl⟩
  | missing hsettings h =>
      rw [generate_of_source_stop hsettings (sourceOf_of_missing h)]
      exact ⟨{}, Outcome.stopped_printMarkup _ _, rfl, rfl⟩
  | undecodable hsettings h hbytes =>
      rw [generate_of_source_stop hsettings (sourceOf_of_undecodable h hbytes)]
      exact ⟨{}, Outcome.stopped_printMarkup _ _, rfl, rfl⟩
  | @refused s level source failure hsettings hsource h =>
      have hrun : (serviceRun world a s source).outcome = .ok { error := some failure.message } :=
        Service.generate_outcome_eq_ok_iff.mpr (Or.inl ⟨failure, h, rfl⟩)
      rw [generate_of_run hsettings hsource, hrun]
      exact ⟨_, Outcome.stopped_refuse _ _, Outcome.written_ofRun .., Outcome.stdout_ofRun ..⟩
  | @unrendered s level source diagram message graph hsettings hsource houtput hgraph hdiagram h =>
      have hrun : (serviceRun world a s source).outcome =
          .ok
            { diagram := some diagram
              error := some (Failure.message ⟨.rendering, some message⟩) } :=
        Service.generate_outcome_eq_ok_iff.mpr
          (Or.inr ⟨graph, diagram, hgraph, hdiagram, Or.inr ⟨houtput, Or.inr ⟨message, h, rfl⟩⟩⟩)
      rw [generate_of_run hsettings hsource, hrun]
      exact ⟨_, Outcome.stopped_refuse _ _, Outcome.written_ofRun ..,
        diagram, hdiagram, Outcome.stdout_ofRun ..⟩

/-- Something shows exactly if there is a graph: a page holds at least the end of its line. -/
theorem Shown.ne_empty_iff {stdout : String} (h : Shown stdout extracted) :
    stdout ≠ "" ↔ extracted.isSome = true := by
  cases extracted with
  | none => simpa [Shown] using h
  | some graph =>
      obtain ⟨diagram, -, rfl⟩ := h
      have hpage : Console.page diagram ≠ "" := by
        intro hempty
        have := congrArg String.toList hempty
        simp [Console.page] at this
      simpa using hpage

/-- Only a reported failure or a crash ends a run with exit code 1. -/
theorem exists_reported_of_exit (hexit : (generate world a).exitCode = 1)
    (hcrash : (generate world a).crash = none) : ∃ extracted, Reported world a extracted := by
  cases hsettings : settingsOf world a with
  | error stop =>
      rcases settingsOf_stop_cases hsettings with ⟨c, rfl⟩ | ⟨text, errors, h, -⟩
      · rw [generate_of_settings_stop hsettings] at hcrash
        cases hcrash
      · exact ⟨none, .format h⟩
  | ok settings =>
      obtain ⟨s, level⟩ := settings
      cases hsource : sourceOf world a with
      | error stop =>
          rcases sourceOf_stop_cases hsource with ⟨c, rfl⟩ | ⟨path, h⟩ | ⟨path, bytes, h, hbytes⟩
          · rw [generate_of_source_stop hsettings hsource] at hcrash
            cases hcrash
          · exact ⟨none, .missing hsettings h⟩
          · exact ⟨none, .undecodable hsettings h hbytes⟩
      | ok source =>
          rw [generate_of_run hsettings hsource] at hexit hcrash
          cases hrun : (serviceRun world a s source).outcome with
          | error e =>
              rw [hrun] at hcrash
              cases hcrash
          | ok result =>
              rw [hrun] at hexit hcrash
              rcases Service.generate_outcome_eq_ok_iff.mp hrun with
                ⟨failure, h, rfl⟩ | ⟨graph, diagram, hgraph, hdiagram, himage⟩
              · exact ⟨none, .refused hsettings hsource h⟩
              rcases himage with ⟨hoff, rfl⟩ | ⟨hon, ⟨image, -, rfl⟩ | ⟨message, h, rfl⟩⟩
              · rw [Option.isSome_eq_false_iff, Option.isNone_iff_eq_none] at hoff
                dsimp only at hexit
                rw [hoff, Outcome.exitCode_ofRun] at hexit
                cases hexit
              · obtain ⟨path, hpath⟩ := Option.isSome_iff_exists.mp hon
                dsimp only at hexit hcrash
                rw [hpath] at hexit hcrash
                have hzero := exitCode_writeImage hcrash
                rw [Outcome.exitCode_ofRun] at hzero
                exact absurd (hzero.symm.trans hexit) Nat.zero_ne_one
              · exact ⟨some graph, .unrendered hsettings hsource hon hgraph hdiagram h⟩

end Failures

section Effects

variable (world : World) (a : Arguments)

/-- A reported failure ends with exit code 1 and no file written. -/
theorem generate_of_reported {extracted : Option Graph} (h : Reported world a extracted) :
    (generate world a).exitCode = 1 ∧ (generate world a).written = [] ∧
      Shown (generate world a).stdout extracted := by
  obtain ⟨o, hstopped, hwritten, hshown⟩ := exists_stopped_of_reported h
  refine ⟨hstopped.exitCode, hstopped.written.trans hwritten, ?_⟩
  rw [hstopped.stdout]
  exact hshown

example : (generate { stdin := " ", server := fun _ => .failure "" } {}).exitCode = 1 :=
  (generate_of_reported _ _
    (@Reported.refused _ _ {} _ _ ⟨.emptyInput, none⟩ rfl rfl rfl)).1

/-- A run without a place for its image asks the server for nothing and writes nothing, however it
ends. -/
theorem generate_of_no_output (h : outputOf a = none) :
    (generate world a).requests = [] ∧ (generate world a).written = [] := by
  cases hsettings : settingsOf world a with
  | error stop =>
      rw [generate_of_settings_stop hsettings]
      have hstopped := stopped_of_settingsOf hsettings {}
      exact ⟨hstopped.requests, hstopped.written⟩
  | ok settings =>
      obtain ⟨s, level⟩ := settings
      cases hsource : sourceOf world a with
      | error stop =>
          rw [generate_of_source_stop hsettings hsource]
          have hstopped := stopped_of_sourceOf hsource {}
          exact ⟨hstopped.requests, hstopped.written⟩
      | ok source =>
          have hrequests : (serviceRun world a s source).requests = [] := by
            rw [serviceRun, h]
            exact Service.requests_generate_false _ _ _
          rw [generate_of_run hsettings hsource, h]
          cases (serviceRun world a s source).outcome with
          | error e => exact ⟨hrequests, rfl⟩
          | ok result =>
              have ho : (Outcome.ofRun level (serviceRun world a s source) result).requests = [] ∧
                  (Outcome.ofRun level (serviceRun world a s source) result).written = [] :=
                ⟨(Outcome.requests_ofRun ..).trans hrequests, Outcome.written_ofRun ..⟩
              dsimp only
              cases result.error with
              | none => exact ho
              | some message =>
                  have hstopped := Outcome.stopped_refuse
                    (Outcome.ofRun level (serviceRun world a s source) result) message
                  exact ⟨hstopped.requests.trans ho.1, hstopped.written.trans ho.2⟩

/-- A run with a place for its image that returns without an error writes its image. -/
theorem generate_of_ok {s : Settings} {level : Nat} {source : String} {path : FilePath}
    {result : DiagramResult} (hsettings : settingsOf world a = .ok (s, level))
    (hsource : sourceOf world a = .ok source) (hpath : outputOf a = some path)
    (hrun : (serviceRun world a s source).outcome = .ok result) (hok : result.ok = true) :
    ∃ image, result.artifact = some image ∧
      generate world a =
        writeImage world (Outcome.ofRun level (serviceRun world a s source) result) path image
          (result.mediaType.getD "") := by
  have hon : (outputOf a).isSome = true := by rw [hpath]; rfl
  rw [generate_of_run hsettings hsource, hrun, hpath]
  rcases Service.generate_outcome_eq_ok_iff.mp hrun with
    ⟨failure, -, rfl⟩ | ⟨graph, diagram, -, -, ⟨hoff, -⟩ | ⟨-, ⟨image, -, rfl⟩ | ⟨message, -, rfl⟩⟩⟩
  · cases hok
  · rw [hon] at hoff
    cases hoff
  · exact ⟨image.content, rfl, rfl⟩
  · cases hok

/-- **The effects of a run.**  A reported failure ends with exit code 1 and leaves the files alone,
and something is printed, namely the diagram, exactly if extraction succeeded; nothing else ends
with exit code 1 but a crash.  A run with a place for its image that returns without an error leaves
exactly its image there and all else alone; if the place cannot be written, the run crashes with
nothing written.  Without such a place nothing is asked of the server and nothing is written. -/
theorem generate_effects :
    (∀ extracted, Reported world a extracted →
      (generate world a).exitCode = 1 ∧ (generate world a).written = [] ∧
        ((generate world a).stdout ≠ "" ↔ extracted.isSome = true) ∧
        Shown (generate world a).stdout extracted) ∧
    ((generate world a).exitCode = 1 → (generate world a).crash = none →
      ∃ extracted, Reported world a extracted) ∧
    (∀ s level source path result, settingsOf world a = .ok (s, level) →
      sourceOf world a = .ok source → outputOf a = some path →
      (serviceRun world a s source).outcome = .ok result → result.ok = true →
      ∃ image, result.artifact = some image ∧
        (∀ name, world.tree.target path = .ok name →
          (world.treeAfter (generate world a)).get path = .ok (.file image) ∧
            ∀ p, p ≠ name →
              (world.treeAfter (generate world a)).find p = world.tree.find p) ∧
        ∀ e, world.tree.target path = .error e →
          (generate world a).written = [] ∧ (generate world a).crash.isSome = true) ∧
    (outputOf a = none → (generate world a).requests = [] ∧ (generate world a).written = []) := by
  refine ⟨?_, exists_reported_of_exit, ?_, generate_of_no_output world a⟩
  · intro extracted h
    obtain ⟨hexit, hwritten, hshown⟩ := generate_of_reported world a h
    exact ⟨hexit, hwritten, hshown.ne_empty_iff, hshown⟩
  · intro s level source path result hsettings hsource hpath hrun hok
    obtain ⟨image, himage, hgenerate⟩ := generate_of_ok world a hsettings hsource hpath hrun hok
    rw [hgenerate]
    refine ⟨image, himage, ?_, ?_⟩
    · intro name htarget
      exact treeAfter_writeImage htarget _ image _
    · intro e htarget
      obtain ⟨c, hfail⟩ := exists_fail_of_writeImage htarget
        (Outcome.ofRun level (serviceRun world a s source) result) image
        (result.mediaType.getD "")
      rw [hfail]
      exact ⟨Outcome.written_ofRun .., rfl⟩

example :
    (generate
      { stdin := "type A struct {}", server := fun _ => .answer { status := 200, body := [7] } }
      { options := [("output", "a.svg")] }).written = [(⟨false, false, ["a.svg"]⟩, [7])] := by
  decide +kernel

end Effects

end Command

end TypeGraph
