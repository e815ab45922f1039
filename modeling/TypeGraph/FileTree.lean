/-!
# Files by relative path

A small picture of the files around the program.  A path is a list of names, from the root or from
the directory in which the program runs; empty names and `.` do not count.  Names and paths may not
be too long, and no path with a null character leads anywhere.
-/

namespace TypeGraph

/-- A path as names, with the mark of an absolute one. -/
structure FilePath where
  absolute : Bool := false
  /-- Whether an absolute path starts with two slashes, which are kept; more count as one. -/
  twoSlashes : Bool := false
  names : List String
deriving DecidableEq, Repr

namespace FilePath

def ofText (s : String) : FilePath where
  absolute := s.toList.head? = some '/'
  twoSlashes := (s.toList.takeWhile (· = '/')).length = 2
  names := ((s.toList.splitOn '/').map String.ofList).filter fun n => n ≠ "" ∧ n ≠ "."

def text (p : FilePath) : String :=
  if p.absolute then (if p.twoSlashes then "//" else "/") ++ "/".intercalate p.names
  else if p.names = [] then "."
  else "/".intercalate p.names

def holdsNull (p : FilePath) : Bool := p.names.any (·.toList.contains (Char.ofNat 0))

def maxName : Nat := 255

def maxPath : Nat := 4095

/-- Goes on from plain names by one name: `..` leads back, above the current directory if need be,
but not above the root. -/
def step (absolute : Bool) (done : List String) (name : String) : List String :=
  if name ≠ ".." then done ++ [name]
  else if !done.all (· = "..") then done.dropLast
  else if absolute then done
  else done ++ [".."]

/-- The path with every `..` followed as far as it goes. -/
def plain (p : FilePath) : FilePath := { p with names := p.names.foldl (step p.absolute) [] }

def heads (p : FilePath) : List FilePath :=
  (List.range (p.names.length + 1)).map fun n => { p with names := p.names.take n }

end FilePath

structure FileTree where
  files : List (FilePath × List UInt8) := []
  directories : List FilePath := []

inductive FileEntry where
  | missing
  | directory
  | file (content : List UInt8)
deriving DecidableEq, Repr

inductive PathError where
  /-- Something on the way is missing. -/
  | missing
  /-- Something on the way is a file. -/
  | notDirectory
  /-- A name or the path itself is too long. -/
  | tooLong
deriving DecidableEq, Repr

namespace FileTree

/-- Whether a plain path leads to a directory: a given one, one that holds something, the root, the
current directory or one above it. -/
def isDirectory (t : FileTree) (p : FilePath) : Bool :=
  let holds (q : FilePath) := p.absolute = q.absolute && p.names.isPrefixOf q.names
  p.names.all (· = "..") || t.directories.any holds ||
    t.files.any fun (f, _) => holds f && p.names.length < f.names.length

def find (t : FileTree) (p : FilePath) : FileEntry :=
  match t.files.find? fun (f, _) => f = p with
  | some (_, content) => .file content
  | none => if t.isDirectory p then .directory else .missing

/-- The names that a path leads through: every name is looked up in a directory. -/
def walk (t : FileTree) (absolute : Bool) (done : List String) :
    List String → Except PathError (List String)
  | [] => .ok done
  | name :: rest =>
    match t.find { absolute, names := done } with
    | .missing => .error .missing
    | .file _ => .error .notDirectory
    | .directory =>
      if FilePath.maxName < name.utf8ByteSize then .error .tooLong
      else walk t absolute (FilePath.step absolute done name) rest

def resolve (t : FileTree) (p : FilePath) : Except PathError FilePath :=
  if p.holdsNull then .error .missing
  else if FilePath.maxPath < p.text.utf8ByteSize then .error .tooLong
  else (t.walk p.absolute [] p.names).map fun names => { absolute := p.absolute, names }

/-- What a path leads to.  A path through something that is no directory leads to nothing. -/
def get (t : FileTree) (p : FilePath) : Except PathError FileEntry :=
  match t.resolve p with
  | .ok q => .ok (t.find q)
  | .error .tooLong => .error .tooLong
  | .error _ => .ok .missing

inductive WriteError where
  | isDirectory
  | path (error : PathError)
deriving DecidableEq, Repr

def target (t : FileTree) (p : FilePath) : Except WriteError FilePath :=
  match t.resolve p with
  | .error e => .error (.path e)
  | .ok q => if t.isDirectory q then .error .isDirectory else .ok q

end FileTree

end TypeGraph
