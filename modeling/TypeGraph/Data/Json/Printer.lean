import TypeGraph.Data.Value

/-!
# Writing JSON

A value as JSON text, with an indentation of two blanks per level.  An empty list or mapping stays
on its line.  Texts keep every character but quotes, backslashes and controls.
-/

namespace TypeGraph.Json

def escapedChar (c : Char) : List Char :=
  if c = '"' ∨ c = '\\' then ['\\', c]
  else if c = '\n' then ['\\', 'n']
  else if c = '\r' then ['\\', 'r']
  else if c = '\t' then ['\\', 't']
  else if c.toNat = 0x08 then ['\\', 'b']
  else if c.toNat = 0x0C then ['\\', 'f']
  else if c.toNat < 0x20 then '\\' :: 'u' :: Text.hexDigits 4 c.toNat
  else [c]

def textLiteral (s : String) : String :=
  String.ofList ('"' :: s.toList.flatMap escapedChar ++ ['"'])

def newline (level : Nat) : String := String.ofList ('\n' :: List.replicate (2 * level) ' ')

def block (opening closing : String) (level : Nat) : List String → String
  | [] => opening ++ closing
  | items =>
    opening ++ newline (level + 1) ++ ("," ++ newline (level + 1)).intercalate items ++
      newline level ++ closing

/-- The number text of a double: JSON has no sign of its own for the infinite ones. -/
def numberText : Binary64 → String
  | .nan => "NaN"
  | .infinite negative => if negative then "-Infinity" else "Infinity"
  | x => x.text

mutual

def render (level : Nat) : Value → String
  | .null => "null"
  | .bool b => if b then "true" else "false"
  | .int n => toString n
  | .real x => numberText x
  | .list items => block "[" "]" level (renderItems (level + 1) items)
  | .set items => block "[" "]" level (renderItems (level + 1) items)
  | .mapping entries => block "\x7b" "\x7d" level (renderEntries (level + 1) entries)
  | v => textLiteral v.display

def renderItems (level : Nat) : List Value → List String
  | [] => []
  | v :: rest => render level v :: renderItems level rest

def renderEntries (level : Nat) : List (Value × Value) → List String
  | [] => []
  | (k, v) :: rest =>
    (textLiteral k.display ++ ": " ++ render level v) :: renderEntries level rest

end

def print (v : Value) : String := render 0 v

end TypeGraph.Json
