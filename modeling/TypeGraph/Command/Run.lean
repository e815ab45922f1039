import TypeGraph.Command.Arguments
import TypeGraph.Configuration
import TypeGraph.Console.Markup
import TypeGraph.Console.Page
import TypeGraph.Console.Table
import TypeGraph.Sample
import TypeGraph.Service

/-!
# The command line

Three commands: `generate` draws the diagram of a source text and, with an output file, renders it;
`inspect` lists the types in a table; `example` prints a sample.  A run is a function of its
arguments, the standard input, the files around it and the rendering server, and says everything
that it did.  What it prints is what a console shows that is wide enough for every line, of texts
without codes for pictures; its exit code, its files and its requests depend on neither.
-/

namespace TypeGraph.Command

structure World where
  stdin : String := ""
  tree : FileTree := {}
  server : Server

inductive Crash where
  | configuration (error : ConfigurationError)
  | markup (error : Console.MarkupError)
  | isDirectory
  | path (error : PathError)
  /-- The log level names a text that is no level. -/
  | unknownLevel (text : String)
  /-- The log level names something that can be no level. -/
  | unfitLevel
  | service (error : ServiceError)
deriving DecidableEq, Repr

/-- What a command did.  A run that only shows help, or that was called wrongly, prints texts which
are not modelled here. -/
structure Outcome where
  exitCode : Nat := 0
  stdout : String := ""
  stderr : String := ""
  crash : Option Crash := none
  written : List (FilePath × List UInt8) := []
  requests : List Request := []

namespace Outcome

def exit (o : Outcome) (code : Nat) : Outcome := { o with exitCode := code }

def fail (o : Outcome) (c : Crash) : Outcome := { o with exitCode := 1, crash := some c }

def print (o : Outcome) (text : String) : Outcome := { o with stdout := o.stdout ++ text }

/-- Prints a log, from a threshold on. -/
def log (o : Outcome) (threshold : Nat) (records : List LogRecord) : Outcome :=
  let lines := (records.filter fun r => threshold ≤ r.severity.weight).map (·.line ++ "\n")
  { o with stderr := o.stderr ++ String.join lines }

/-- Prints marked-up text on standard error, then goes on. -/
def printMarkup (o : Outcome) (text : String) (next : Outcome → Outcome) : Outcome :=
  match Console.showMarkup text with
  | .error e => o.fail (.markup e)
  | .ok shown => next { o with stderr := o.stderr ++ Console.page shown }

def printTexts (o : Outcome) : List String → Outcome
  | [] => o
  | text :: rest =>
    match Console.showMarkup text with
    | .error e => o.fail (.markup e)
    | .ok shown => (o.print (Console.page shown)).printTexts rest

def printTable (o : Outcome) (table : Console.Table) (next : Outcome → Outcome) : Outcome :=
  match table.shown with
  | .error e => o.fail (.markup e)
  | .ok shown => next (o.print (String.join (shown.lines.map (· ++ "\n"))))

/-- Prints a message on standard error as it is, and ends with exit code 1. -/
def refuse (o : Outcome) (message : String) : Outcome :=
  o.printMarkup ("[red]" ++ Console.escapeMarkup message ++ "[/red]") (·.exit 1)

end Outcome

inductive Level where
  | weight (n : Nat)
  | text (s : String)
  | styles

/-- The names that mean something as a log level.  Two of them are names of other things. -/
def levels : List (String × Level) :=
  [("CRITICAL", .weight 50), ("FATAL", .weight 50), ("ERROR", .weight 40), ("WARNING", .weight 30),
   ("WARN", .weight 30), ("INFO", .weight 20), ("DEBUG", .weight 10), ("NOTSET", .weight 0),
   ("BASIC_FORMAT", .text "%(levelname)s:%(name)s:%(message)s"), ("_STYLES", .styles)]

def unknownLevelMessage (text : String) : String := "Unknown level: " ++ Text.quoted text

/-- The threshold of a run's log; a name without meaning asks for warnings. -/
def threshold (s : Settings) (verbose : Bool) : Except Crash Nat :=
  if verbose then .ok 10
  else
    match levels.lookup s.logLevel with
    | none => .ok 30
    | some (.weight n) => .ok n
    | some (.text t) => .error (.unknownLevel t)
    | some .styles => .error .unfitLevel

def formatMessage (format : String) (errors : List FieldError) : String :=
  let problem := (errors.head?.map (·.problem.message)).getD ""
  "Invalid --format " ++ Text.quoted format ++ ": " ++ problem

/-- The settings of a run, with the format that the command line asks for. -/
def formatSettings (s : Settings) (format : Option String) :
    Except (Outcome → Outcome) Settings :=
  match format with
  | none | some "" => .ok s
  | some format =>
    match s.withFormat (.text format) with
    | .ok s => .ok s
    | .error errors => .error (·.refuse (formatMessage format errors))

def resolveSettings (world : World) (config format : Option String) (verbose : Bool) :
    Except (Outcome → Outcome) (Settings × Nat) :=
  match Settings.load world.tree (config.map FilePath.ofText) with
  | .error e => .error (·.fail (.configuration e))
  | .ok s => do
    let s ← formatSettings s format
    match threshold s verbose with
    | .ok level => return (s, level)
    | .error crash => throw (·.fail crash)

def readSource (world : World) (source : Option String) : Except (Outcome → Outcome) String :=
  let stdin := String.ofList (Text.unifyNewlines world.stdin.toList)
  match source with
  | none => .ok stdin
  | some source =>
    let path := FilePath.ofText source
    if path.text = "-" then .ok stdin
    else
      match world.tree.get path with
      | .error e => .error (·.fail (.path e))
      -- the path is not escaped, as `refuse` escapes a message
      | .ok .missing =>
        .error (·.printMarkup ("[red]Source file not found:[/red] " ++ path.text) (·.exit 1))
      | .ok .directory => .error (·.fail .isDirectory)
      | .ok (.file bytes) =>
        match decodeText? bytes with
        | some text => .ok text
        | none =>
          .error
            (·.printMarkup ("[red]Source file is not valid UTF-8:[/red] " ++ path.text) (·.exit 1))

def writeImage (world : World) (o : Outcome) (path : FilePath) (image : List UInt8)
    (mediaType : String) : Outcome :=
  match world.tree.target path with
  | .error .isDirectory => o.fail .isDirectory
  | .error (.path e) => o.fail (.path e)
  | .ok name =>
    -- a file that holds the image already has not changed
    let changed := if world.tree.find name = .file image then [] else [(name, image)]
    ({ o with written := changed }).printMarkup
      ("[green]Wrote " ++ mediaType ++ " to[/green] " ++ path.text) id

def generateOptions : List OptionSpec :=
  [⟨"output", some 'o', true⟩, ⟨"format", some 'f', true⟩, ⟨"config", some 'c', true⟩,
   ⟨"verbose", some 'v', false⟩, ⟨"help", none, false⟩]

/-- Draws the diagram of a source text and renders it to a file if one is named. -/
def generate (world : World) (a : Arguments) : Outcome :=
  let verbose := (a.option? "verbose").isSome
  match resolveSettings world (a.option? "config") (a.option? "format") verbose with
  | .error stop => stop {}
  | .ok (settings, level) =>
    match readSource world a.positional.head? with
    | .error stop => stop {}
    | .ok source =>
      let output := (a.option? "output").map FilePath.ofText
      let run := (Service.ofSettings settings).generate source output.isSome world.server
      let o : Outcome := ({ requests := run.requests } : Outcome).log level run.log
      match run.outcome with
      | .error e => o.fail (.service e)
      | .ok result =>
        -- the diagram is printed even if its rendering failed
        let o := match result.diagram with
          | some diagram => o.print (Console.page diagram)
          | none => o
        match result.error with
        | some message => o.refuse message
        | none =>
          match output, result.artifact with
          | some path, some image => writeImage world o path image (result.mediaType.getD "")
          | _, _ => o

def inspectOptions : List OptionSpec :=
  [⟨"config", some 'c', true⟩, ⟨"help", none, false⟩]

def typeTable (g : Graph) : Console.Table where
  title := "Types"
  header := ["Name", "Kind", "Fields", "Methods", "Embeds"]
  rows := g.entities.map fun e =>
    [e.name, e.kind.label, ", ".intercalate (e.fields.map (·.name)),
     ", ".intercalate (e.methods.map (·.name)), ", ".intercalate e.embeds]

def edgeText (r : Relationship) : String :=
  "  " ++ r.source ++ " -> " ++ r.target ++ " (" ++ r.type.label ++ ")"

def edgeTexts (g : Graph) : List String :=
  (if g.relationships = [] then [] else ["[bold]Relationships[/bold]"]) ++
    g.relationships.map edgeText

def inspect (world : World) (a : Arguments) : Outcome :=
  match resolveSettings world (a.option? "config") none false with
  | .error stop => stop {}
  | .ok (settings, level) =>
    match readSource world a.positional.head? with
    | .error stop => stop {}
    | .ok source =>
      let (result, records) := (Service.ofSettings settings).extract source
      let o : Outcome := ({} : Outcome).log level records
      match result with
      | .error (.failure f) => o.refuse f.message
      | .error e => o.fail (.service e)
      | .ok g => o.printTable (typeTable g) (·.printTexts (edgeTexts g))

def helpOptions : List OptionSpec := [⟨"help", none, false⟩]

/-- The paths that some arguments name: two options and the positional arguments. -/
def Arguments.paths (a : Arguments) : List FilePath :=
  ((a.option? "output").toList ++ (a.option? "config").toList ++ a.positional).map FilePath.ofText

/-- Reads the arguments of a command with at most `most` positional ones and runs it.  No path may
hold a null character. -/
def runCommand (specs : List OptionSpec) (most : Nat) (args : List String)
    (command : Arguments → Outcome) : Except UsageError Outcome :=
  match readArguments specs true {} args with
  | .error e => .error e
  | .ok a =>
    if (a.option? "help").isSome then .ok {}
    else if most < a.positional.length then .error .extraArgument
    else if a.paths.any FilePath.holdsNull then .error .nullCharacter
    else .ok (command a)

def usageExit : Nat := 2

def asksHelp (args : List String) : Bool :=
  match readArguments helpOptions false {} args with
  | .ok a => (a.option? "help").isSome
  | .error _ => false

/-- Runs the command line, or says what is wrong with the call.  What stands for a command and is
none may still ask for help, even behind `--`. -/
def dispatch (world : World) (args : List String) : Except UsageError Outcome :=
  match readArguments helpOptions false {} args with
  | .error e => .error e
  | .ok a =>
    if (a.option? "help").isSome then .ok {}
    else
      match a.positional with
      | "generate" :: rest => runCommand generateOptions 1 rest (generate world)
      | "inspect" :: rest => runCommand inspectOptions 1 rest (inspect world)
      | "example" :: rest =>
        runCommand helpOptions 0 rest fun _ => ({} : Outcome).print (Console.page sampleSource)
      | [] => .error .noCommand
      | _ => if asksHelp a.positional then .ok {} else .error .unknownCommand

/-- What a call has to know of the world before it runs. -/
structure Needs where
  stdin : Bool := false
  paths : List FilePath := []

/-- What a call has to know: the configuration file, the source and the place of the image. -/
def Needs.ofArguments (args : List String) : Needs :=
  match readArguments helpOptions false {} args with
  | .ok ⟨_, "generate" :: rest⟩ | .ok ⟨_, "inspect" :: rest⟩ =>
    match readArguments generateOptions true {} rest with
    | .ok a =>
      let source := a.positional.head?.map FilePath.ofText
      let config := ((a.option? "config").map FilePath.ofText).getD defaultConfiguration
      let output := (a.option? "output").map FilePath.ofText
      { stdin := source.all (·.text = "-")
        paths := config :: source.toList ++ output.toList }
    | .error _ => {}
  | _ => {}

def run (world : World) (args : List String) : Outcome :=
  match dispatch world args with
  | .ok o => o
  | .error _ => { exitCode := usageExit }

end TypeGraph.Command
