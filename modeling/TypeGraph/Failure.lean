/-!
# Failures that a user is told about
-/

namespace TypeGraph

inductive FailureKind where
  | general
  | emptyInput
  | noDeclarations
  | rendering
deriving DecidableEq, Repr

def FailureKind.message : FailureKind → String
  | .general | .rendering => "Failed to generate diagram."
  | .emptyInput => "Please enter some Go code."
  | .noDeclarations => "Could not parse any structs or interfaces from the code."

/-- A failure, with a note on what happened.  For a failure of rendering the note is the message of
the rendering server, kept as it is. -/
structure Failure where
  kind : FailureKind
  note : Option String := none
deriving DecidableEq, Repr

/-- The message for the user.  Rendering names its note behind a heading; for any other failure a
note that is not empty takes the place of the standing message. -/
def Failure.message (f : Failure) : String :=
  match f.kind with
  | .rendering => "Render error: " ++ f.note.getD "None"
  | kind =>
    match f.note with
    | none | some "" => kind.message
    | some note => note

def Failure.rendererMessage? (f : Failure) : Option String :=
  match f.kind with
  | .rendering => f.note
  | _ => none

end TypeGraph
