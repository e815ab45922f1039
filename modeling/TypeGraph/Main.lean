import TypeGraph.Command.Run

/-!
# The program

Looks at what a call needs of the world, runs it, and carries out what it says it did.  There is no
network here: every request to the rendering server fails.
-/

namespace TypeGraph.Program

/-- Reads a stream to its end. -/
partial def readAll (input : IO.FS.Stream) (read : ByteArray) : IO ByteArray := do
  let more ← input.read 65536
  if more.isEmpty then return read else readAll input (read ++ more)

/-- What stands at some paths, and on the way to them. -/
def survey (paths : List FilePath) : IO FileTree := do
  let mut tree : FileTree := {}
  for path in paths.flatMap FilePath.heads do
    match ← (IO.FS.readBinFile path.text).toBaseIO with
    | .ok bytes => tree := { tree with files := (path.plain, bytes.toList) :: tree.files }
    | .error (.noFileOrDirectory ..) => pure ()
    | .error _ => tree := { tree with directories := path.plain :: tree.directories }
  return tree

def unreachable : Server := fun _ => .failure "No network is available"

def crashText : Command.Crash → String
  | .configuration _ => "The configuration file gives no settings."
  | .markup e => e.message
  | .isDirectory => "The path leads to a directory."
  | .path .missing => "The path leads through a directory that is missing."
  | .path .notDirectory => "The path leads through a file."
  | .path .tooLong => "The path is too long."
  | .unknownLevel text => Command.unknownLevelMessage text
  | .unfitLevel => "The log level is not a number or a text."
  | .service e => e.message

/-- Carries out what a run says it did. -/
def carryOut (o : Command.Outcome) : IO UInt32 := do
  IO.print o.stdout
  IO.eprint o.stderr
  for (path, bytes) in o.written do
    IO.FS.writeBinFile path.text ⟨bytes.toArray⟩
  for crash in o.crash do
    IO.eprintln (crashText crash)
  return o.exitCode.toUInt32

end TypeGraph.Program

open TypeGraph in
def main (args : List String) : IO UInt32 := do
  let needs := Command.Needs.ofArguments args
  let tree ← Program.survey needs.paths
  let bytes ← if needs.stdin then Program.readAll (← IO.getStdin) .empty else pure .empty
  match Utf8.decode? bytes.toList with
  | none => IO.eprintln "The standard input is not valid UTF-8."; return 1
  | some stdin => Program.carryOut (Command.run ⟨stdin, tree, Program.unreachable⟩ args)
