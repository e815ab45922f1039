import TypeGraph.Data.Moment
import TypeGraph.Number.Integer
import TypeGraph.Number.Shortest

/-!
# Data values

The values that a configuration file or a tool call can hold.  A value has two texts: its display,
in which a text stands as it is, and its literal, in which a text is quoted.  Inside lists and
mappings the literal is used.
-/

namespace TypeGraph

/-- A data value.  Entries of a mapping are in order and have distinct keys.  A list or mapping that
is met again inside itself is not written out a second time. -/
inductive Value where
  | null
  | bool (b : Bool)
  | int (n : Int)
  | real (x : Binary64)
  | text (s : String)
  /-- A text that holds a lone surrogate. -/
  | codes (t : Text.CodePoints)
  | bytes (b : List UInt8)
  | date (d : Date)
  | timestamp (t : Timestamp)
  | list (items : List Value)
  | mapping (entries : List (Value × Value))
  | set (items : List Value)
  | pair (first second : Value)
  /-- A list inside itself. -/
  | listAgain
  /-- A mapping inside itself. -/
  | mappingAgain
deriving Inhabited

namespace Value

def record (fields : List (String × Value)) : Value :=
  .mapping (fields.map fun (key, value) => (.text key, value))

def ofCodes (t : Text.CodePoints) : Value :=
  match t.toString? with
  | some s => .text s
  | none => .codes t

def text? : Value → Option String
  | .text s => some s
  | _ => none

def lookup? (key : String) : List (Value × Value) → Option Value
  | [] => none
  | (.text k, v) :: rest => if k = key then some v else lookup? key rest
  | _ :: rest => lookup? key rest

def get? (v : Value) (key : String) : Option Value :=
  match v with
  | .mapping entries => lookup? key entries
  | _ => none

/-- The entries of a mapping by name, if every key is a text. -/
def named? (entries : List (Value × Value)) : Option (List (String × Value)) :=
  entries.mapM fun (key, value) => key.text?.map (·, value)

/-- Whether the value counts as true: not null, not zero and not empty. -/
def isTruthy : Value → Bool
  | .null => false
  | .bool b => b
  | .int n => n ≠ 0
  | .real x => !x.isZero
  | .text s => s ≠ ""
  | .bytes b => b ≠ []
  | .list items => !items.isEmpty
  | .mapping entries => !entries.isEmpty
  | .set items => !items.isEmpty
  | .codes _ | .date _ | .timestamp _ | .pair _ _ | .listAgain | .mappingAgain => true

/-- The text of a value that is neither text nor compound. -/
def atomText : Value → String
  | .bool b => if b then "True" else "False"
  | .int n => toString n
  | .real x => x.text
  | .bytes b => Text.quotedBytes b
  | .codes t => t.quoted
  | .listAgain => "[...]"
  | .mappingAgain => "\x7b...\x7d"
  | _ => "None"

mutual

def literal : Value → String
  | .text s => Text.quoted s
  | .date d => d.literal
  | .timestamp t => t.literal
  | .list items => "[" ++ ", ".intercalate (literals items) ++ "]"
  | .mapping entries => "\x7b" ++ ", ".intercalate (entryLiterals entries) ++ "\x7d"
  | .set [] => "set()"
  | .set items => "\x7b" ++ ", ".intercalate (literals items) ++ "\x7d"
  | .pair a b => "(" ++ literal a ++ ", " ++ literal b ++ ")"
  | v => atomText v

def literals : List Value → List String
  | [] => []
  | v :: rest => literal v :: literals rest

def entryLiterals : List (Value × Value) → List String
  | [] => []
  | (k, v) :: rest => (literal k ++ ": " ++ literal v) :: entryLiterals rest

end

mutual

/-- Whether the value holds an integer that is too long to be written out. -/
def holdsTooLong : Value → Bool
  | .int n => Integer.isTooLong n
  | .list items => anyTooLong items
  | .mapping entries => anyEntryTooLong entries
  | .set items => anyTooLong items
  | .pair a b => holdsTooLong a || holdsTooLong b
  | _ => false

def anyTooLong : List Value → Bool
  | [] => false
  | v :: rest => holdsTooLong v || anyTooLong rest

def anyEntryTooLong : List (Value × Value) → Bool
  | [] => false
  | (k, v) :: rest => holdsTooLong k || holdsTooLong v || anyEntryTooLong rest

end

def display : Value → String
  | .text s => s
  | .date d => d.text
  | .timestamp t => t.text
  | v => literal v

end Value

end TypeGraph
