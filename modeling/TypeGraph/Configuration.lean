import TypeGraph.FileTree
import TypeGraph.Settings
import TypeGraph.Text.Line
import TypeGraph.Yaml.Document

/-!
# Settings from a configuration file

A missing file means the default settings, and so does one whose value is null, zero or empty.
Otherwise the value has to be a mapping with texts as keys.
-/

namespace TypeGraph

inductive ConfigurationError where
  /-- The path leads nowhere. -/
  | path (error : PathError)
  /-- The path leads to a directory. -/
  | isDirectory
  /-- The file is not UTF-8. -/
  | undecodable
  /-- The file is not YAML. -/
  | malformed (fault : Yaml.Fault)
  /-- The value does not name settings. -/
  | notNamed
  /-- Some settings break their rules. -/
  | invalid (errors : List FieldError)
deriving DecidableEq, Repr

def defaultConfiguration : FilePath := { names := ["config.yaml"] }

/-- The text of bytes, with every line end as a line feed. -/
def decodeText? (bytes : List UInt8) : Option String :=
  (Utf8.decode? bytes).map fun s => String.ofList (Text.unifyNewlines s.toList)

/-- Whether a value names a setting: a text does, whatever its code points. -/
def isName : Value → Bool
  | .text _ | .codes _ => true
  | _ => false

/-- The settings among the entries of a document's root, if every key is a text.  The values of
other names are not looked at. -/
def namedEntries? (d : Yaml.Document) (entries : List (Yaml.NodeId × Yaml.NodeId)) :
    Option (List (String × Value)) :=
  if !entries.all fun (key, _) => isName (d.value key) then none
  else
    some (entries.filterMap fun (key, value) => do
      let name ← (d.value key).text?
      if (SettingsField.ofLabel? name).isSome then some (name, d.value value) else none)

def Settings.ofDocument (d : Yaml.Document) : Except ConfigurationError Settings :=
  match d.root.bind d.object? with
  | none => .ok {}
  | some (.atom v _) => if v.isTruthy then .error .notNamed else .ok {}
  | some (.list []) | some (.pairs []) | some (.set []) | some (.mapping []) => .ok {}
  | some (.mapping entries) =>
    match namedEntries? d entries with
    | none => .error .notNamed
    | some data =>
      match Settings.ofData data with
      | .ok s => .ok s
      | .error errors => .error (.invalid errors)
  | some _ => .error .notNamed

def Settings.load (tree : FileTree) (path : Option FilePath) : Except ConfigurationError Settings :=
  match tree.get (path.getD defaultConfiguration) with
  | .error e => .error (.path e)
  | .ok .missing => .ok {}
  | .ok .directory => .error .isDirectory
  | .ok (.file bytes) =>
    match decodeText? bytes with
    | none => .error .undecodable
    | some text =>
      match Yaml.load text with
      | .ok d => Settings.ofDocument d
      | .error fault => .error (.malformed fault)

end TypeGraph
