/-!
# Command line arguments

Options have a long name and may have a short one.  The value of a long option follows behind an
equals sign or as the next argument; the value of a short one follows at once or as the next
argument; short options without a value may be run together.  Behind `--` nothing is an option.
-/

namespace TypeGraph.Command

structure OptionSpec where
  long : String
  short : Option Char := none
  takesValue : Bool
deriving DecidableEq, Repr

/-- Arguments in order: options by long name with their value, and the positional ones. -/
structure Arguments where
  options : List (String × String) := []
  positional : List String := []
deriving DecidableEq, Repr

inductive UsageError where
  | unknownOption (name : String)
  | missingValue (name : String)
  | unwantedValue (name : String)
  | extraArgument
  | nullCharacter
  | unknownCommand
  | noCommand
deriving DecidableEq, Repr

def Arguments.addOption (a : Arguments) (name value : String) : Arguments :=
  { a with options := a.options ++ [(name, value)] }

def Arguments.addPositional (a : Arguments) (values : List String) : Arguments :=
  { a with positional := a.positional ++ values }

/-- The value of an option; the last of several counts. -/
def Arguments.option? (a : Arguments) (name : String) : Option String :=
  a.options.reverse.lookup name

/-- Reads short options that are run together; a value may need the arguments behind them. -/
def shortOptions (specs : List OptionSpec) (a : Arguments) :
    List Char → List String → Except UsageError (Arguments × List String)
  | [], rest => .ok (a, rest)
  | c :: cs, rest =>
    match specs.find? (·.short = some c) with
    | none => .error (.unknownOption (String.singleton c))
    | some spec =>
      if !spec.takesValue then shortOptions specs (a.addOption spec.long "") cs rest
      else if cs ≠ [] then .ok (a.addOption spec.long (String.ofList cs), rest)
      else
        match rest with
        | [] => .error (.missingValue spec.long)
        | value :: rest => .ok (a.addOption spec.long value, rest)

theorem length_shortOptions_le {specs : List OptionSpec} {a b : Arguments} {cs : List Char}
    {rest left : List String} (h : shortOptions specs a cs rest = .ok (b, left)) :
    left.length ≤ rest.length := by
  induction cs generalizing a with
  | nil =>
    simp only [shortOptions, Except.ok.injEq, Prod.mk.injEq] at h
    exact h.2 ▸ Nat.le_refl _
  | cons c cs ih =>
    simp only [shortOptions] at h
    split at h
    · simp at h
    · split at h
      · exact ih h
      · split at h
        · simp only [Except.ok.injEq, Prod.mk.injEq] at h
          exact h.2 ▸ Nat.le_refl _
        · split at h
          · simp at h
          · simp only [Except.ok.injEq, Prod.mk.injEq] at h
            rw [← h.2]
            simp

def longOption (specs : List OptionSpec) (a : Arguments) (name : String) (value : Option String)
    (rest : List String) : Except UsageError (Arguments × List String) :=
  match specs.find? (·.long = name), value with
  | none, _ => .error (.unknownOption name)
  | some spec, some value =>
    if spec.takesValue then .ok (a.addOption name value, rest) else .error (.unwantedValue name)
  | some spec, none =>
    if !spec.takesValue then .ok (a.addOption name "", rest)
    else
      match rest with
      | [] => .error (.missingValue name)
      | value :: rest => .ok (a.addOption name value, rest)

theorem length_longOption_le {specs : List OptionSpec} {a b : Arguments} {name : String}
    {value : Option String} {rest left : List String}
    (h : longOption specs a name value rest = .ok (b, left)) : left.length ≤ rest.length := by
  unfold longOption at h
  split at h
  · simp at h
  · split at h
    · simp only [Except.ok.injEq, Prod.mk.injEq] at h
      exact h.2 ▸ Nat.le_refl _
    · simp at h
  · split at h
    · simp only [Except.ok.injEq, Prod.mk.injEq] at h
      exact h.2 ▸ Nat.le_refl _
    · split at h
      · simp at h
      · simp only [Except.ok.injEq, Prod.mk.injEq] at h
        rw [← h.2]
        simp

def splitEquals (s : List Char) : String × Option String :=
  match s.dropWhile (· ≠ '=') with
  | [] => (String.ofList s, none)
  | _ :: value => (String.ofList (s.takeWhile (· ≠ '=')), some (String.ofList value))

def optionArgument (specs : List OptionSpec) (a : Arguments) (arg : List Char)
    (rest : List String) : Except UsageError (Arguments × List String) :=
  match arg with
  | '-' :: '-' :: text =>
    let (name, value) := splitEquals text
    longOption specs a name value rest
  | _ => shortOptions specs a (arg.drop 1) rest

theorem length_optionArgument_le {specs : List OptionSpec} {a b : Arguments} {arg : List Char}
    {rest left : List String} (h : optionArgument specs a arg rest = .ok (b, left)) :
    left.length ≤ rest.length := by
  unfold optionArgument at h
  split at h
  · exact length_longOption_le h
  · exact length_shortOptions_le h

/-- Whether an argument looks like an option: a hyphen alone does not. -/
def looksLikeOption (arg : List Char) : Bool :=
  match arg with
  | '-' :: _ :: _ => true
  | _ => false

/-- Reads arguments.  With `mixed`, options may follow positional arguments; without, the first
positional argument ends the options. -/
def readArguments (specs : List OptionSpec) (mixed : Bool) (a : Arguments) :
    List String → Except UsageError Arguments
  | [] => .ok a
  | arg :: rest =>
    if arg = "--" then .ok (a.addPositional rest)
    else if looksLikeOption arg.toList then
      match _h : optionArgument specs a arg.toList rest with
      | .ok (b, left) => readArguments specs mixed b left
      | .error e => .error e
    else if mixed then readArguments specs mixed (a.addPositional [arg]) rest
    else .ok (a.addPositional (arg :: rest))
termination_by args => args.length
decreasing_by
  · have := length_optionArgument_le _h; simp; omega
  · simp

end TypeGraph.Command
