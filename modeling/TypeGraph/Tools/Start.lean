import TypeGraph.Command.Arguments
import TypeGraph.Configuration
import TypeGraph.Text.Digit

/-!
# Starting the tool server

The server is started with a configuration file and another rendering server, as far as it is told.
Options have long names, which may be cut short, and a value behind an equals sign or in the next
argument.
-/

namespace TypeGraph.Session

inductive StartOption where
  | help
  | config
  | rendererUrl
deriving DecidableEq, Repr

def optionNames : List (String × StartOption) :=
  [("help", .help), ("config", .config), ("renderer-url", .rendererUrl)]

inductive Start where
  /-- With a configuration file and another rendering server, as far as given. -/
  | serve (config rendererUrl : Option String)
  | help
  | usage
deriving DecidableEq, Repr

/-- What an argument is, before it is known what stands in front of it. -/
inductive Argument where
  /-- A value. -/
  | value (s : String)
  /-- The mark behind which everything is a value. -/
  | separator
  /-- A long option with the value behind its equals sign. -/
  | long (option : StartOption) (value : Option String)
  /-- The short call for help with what follows it at once or behind an equals sign. -/
  | short (more : List Char)
  /-- What looks like an option and is none. -/
  | unknown
deriving DecidableEq, Repr

def isAnyDigit (c : Char) : Bool := (Text.decimalDigit? c.toNat).isSome

/-- Whether a text behind a hyphen makes a negative number; the end of a line may follow it. -/
def isNegativeNumber (s : List Char) : Bool :=
  let s := if s.getLast? = some '\n' then s.dropLast else s
  match s.dropWhile isAnyDigit with
  | [] => s ≠ []
  | '.' :: digits => digits ≠ [] && digits.all isAnyDigit
  | _ => false

/-- What an argument is.  A long name may be cut short as long as it means one option only; one that
could mean several is an error. -/
def classify (arg : String) : Option Argument :=
  match arg.toList with
  | '-' :: '-' :: text =>
    let (name, value) := Command.splitEquals text
    match optionNames.lookup name with
    | some option => some (.long option value)
    | none =>
      match optionNames.filter fun (n, _) => name.toList.isPrefixOf n.toList with
      | [(_, option)] => some (.long option value)
      | _ :: _ => none
      | [] => some (if text.contains ' ' then .value arg else .unknown)
  | '-' :: 'h' :: '=' :: c :: more => some (.short (c :: more))
  | '-' :: 'h' :: more => some (.short more)
  | '-' :: c :: rest =>
    some (if isNegativeNumber (c :: rest) || (c :: rest).contains ' ' then .value arg else .unknown)
  | _ => some (.value arg)

def classifyAll : List String → Option (List Argument)
  | [] => some []
  | "--" :: rest => some (.separator :: rest.map .value)
  | arg :: rest => do return (← classify arg) :: (← classifyAll rest)

/-- Reads the arguments of the server.  Help is given where it is called for, unless an option in
front of it lacks its value; a stray argument is told only at the end. -/
def readStart (config rendererUrl : Option String) (stray : Bool) : List Argument → Start
  | [] => if stray then .usage else .serve config rendererUrl
  | .value _ :: rest => readStart config rendererUrl true rest
  | .separator :: rest => readStart config rendererUrl true rest
  | .unknown :: rest => readStart config rendererUrl true rest
  | .short more :: _ => if more.all (· = 'h') then .help else .usage
  | .long .help value :: _ => if value.isNone then .help else .usage
  | .long .config (some v) :: rest => readStart (some v) rendererUrl stray rest
  | .long .rendererUrl (some v) :: rest => readStart config (some v) stray rest
  | .long .config none :: .value v :: rest => readStart (some v) rendererUrl stray rest
  | .long .rendererUrl none :: .value v :: rest => readStart config (some v) stray rest
  | .long .config none :: _ => .usage
  | .long .rendererUrl none :: _ => .usage

def Start.ofArguments (args : List String) : Start :=
  match classifyAll args with
  | none => .usage
  | some classified => readStart none none false classified

/-- The settings of a server: those of its configuration file, with another rendering server if one
is named and not empty. -/
def startSettings (tree : FileTree) (config rendererUrl : Option String) :
    Except ConfigurationError Settings := do
  let s ← Settings.load tree (config.map FilePath.ofText)
  match rendererUrl with
  | none | some "" => return s
  | some url => return { s with rendererUrl := url }

end TypeGraph.Session
