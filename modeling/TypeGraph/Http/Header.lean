import TypeGraph.Charset
import TypeGraph.Http.Url
import TypeGraph.Text.Blank
import TypeGraph.Text.Quoted

/-!
# Headers

The headers of an answer are names with values.  The case of a name does not count, and values of
one name stand for a single value with commas.
-/

namespace TypeGraph

abbrev Headers := List (String × String)

namespace Headers

def values (headers : Headers) (name : String) : List String :=
  (headers.filter fun (n, _) => n.toLower = name).map (·.2)

def get? (headers : Headers) (name : String) : Option String :=
  match headers.values name with
  | [] => none
  | found => some (", ".intercalate found)

/-- The first name or value that cannot be sent, because it is not ASCII. -/
def unsendable? (headers : Headers) : Option String :=
  (headers.flatMap fun (name, value) => [name, value]).find? fun text =>
    text.toList.any fun c => 128 ≤ c.toNat

/-- What is said of a text that is not ASCII: where its first characters beyond ASCII stand, and if
there is only one, which it is. -/
def unsendableMessage (text : String) : String :=
  let isPlain (c : Char) : Bool := c.toNat < 128
  let start := (text.toList.takeWhile isPlain).length
  let run := (text.toList.drop start).takeWhile fun c => !isPlain c
  let place := match run with
    | [c] => s!"character '{String.ofList (Text.escapeCode c.toNat)}' in position {start}"
    | _ => s!"characters in position {start}-{start + run.length - 1}"
  s!"'ascii' codec can't encode {place}: ordinal not in range(128)"

/-! ## Parameters of a media type -/

/-- Cuts a value at its semicolons, those in quotes aside; `piece` is what was read of a part, last
character first, and `isOpen` whether a quote is open.  A semicolon in front of a part always cuts.
-/
def parts (piece : List Char) (isOpen : Bool) : List Char → List (List Char)
  | [] => [piece.reverse]
  | '\\' :: '"' :: rest => parts ('"' :: '\\' :: piece) isOpen rest
  | '"' :: rest => parts ('"' :: piece) (!isOpen) rest
  | ';' :: rest =>
    if isOpen then parts (';' :: piece) isOpen rest else piece.reverse :: parts [] false rest
  | c :: rest => parts (c :: piece) isOpen rest

/-- What the escapes inside quotes stand for: first those of the backslash are undone, then those of
the quote. -/
def unescaped (s : List Char) : List Char :=
  let text := (String.ofList s).replace "\\\\" "\\"
  (text.replace "\\\"" "\"").toList

def unquoted (s : List Char) : List Char :=
  match s with
  | c :: d :: rest =>
    let last := (d :: rest).getLast (List.cons_ne_nil d rest)
    let inside := (d :: rest).dropLast
    if c = '"' ∧ last = '"' then unescaped inside
    else if c = '<' ∧ last = '>' then inside
    else s
  | _ => s

/-- The parameter of a name and value, with blanks around both removed.  The case of a name with a
value does not count. -/
def parameter (part : List Char) : String × String :=
  let name := String.ofList (Text.trim (part.takeWhile (· ≠ '=')))
  let value := Text.trim ((part.dropWhile (· ≠ '=')).drop 1)
  (if part.contains '=' then name.toLower else name, String.ofList (unquoted value))

/-! ## Parameters in parts -/

structure ParameterPart where
  /-- Its number, unless the value is not cut. -/
  number : Option Nat
  value : String
  /-- Whether it is escaped. -/
  isEscaped : Bool

def ParameterPart.le (a b : ParameterPart) : Bool :=
  if a.number ≠ b.number then a.number.getD 0 ≤ b.number.getD 0
  else if a.value ≠ b.value then a.value < b.value
  else !a.isEscaped || b.isEscaped

/-- The name and the number of a name that ends in a star, or in a star and a number, behind which
there may be one more star. -/
def partName? (name : String) : Option (String × Option Nat) :=
  let isWord (c : Char) : Bool := c.isAlphanum || c = '_'
  let word := name.toList.takeWhile isWord
  match word, name.toList.dropWhile isWord with
  | _ :: _, ['*'] => some (String.ofList word, none)
  | _ :: _, '*' :: rest =>
    let digits := rest.takeWhile Char.isDigit
    let tail := rest.dropWhile Char.isDigit
    if digits ≠ [] ∧ (tail = [] ∨ tail = ['*']) then
      some (String.ofList word, some (digits.foldl (fun n c => 10 * n + (c.toNat - 0x30)) 0))
    else none
  | _, _ => none

def part? (parameter : String × String) : Option (String × ParameterPart) :=
  (partName? parameter.1).map fun (name, number) =>
    (name, ⟨number, parameter.2, parameter.1.endsWith "*"⟩)

/-- The first part that is numbered behind one that is not, or the other way round. -/
def mixed? : List ParameterPart → Option CharsetError
  | a :: b :: rest =>
    if a.number.isSome ≠ b.number.isSome then some (.mixedParts b.number.isSome)
    else mixed? (b :: rest)
  | _ => none

/-- A text in which escapes are undone; each stands for the character of its code. -/
def ofEscapes (s : String) : String :=
  String.ofList ((Url.percentBytes s.toList).map fun b => Char.ofNat b.toNat)

/-- The value of a parameter: a text, or a text with the name of its character set. -/
inductive ParameterValue where
  | plain (text : String)
  | encoded (charset : String) (text : String)

/-- The value that parts in order make up.  If one is escaped, the value names its character set and
its language in front, if it has two ticks. -/
def ParameterValue.ofParts (parts : List ParameterPart) : ParameterValue :=
  let parts := parts.mergeSort ParameterPart.le
  let text := "".intercalate (parts.map fun part =>
    if part.isEscaped then ofEscapes part.value else part.value)
  if !parts.any (·.isEscaped) then .plain text
  else
    match text.toList.splitOn '\'' with
    | charset :: _ :: rest@(_ :: _) =>
      .encoded (String.ofList charset) (String.ofList (['\''].intercalate rest))
    | _ => .encoded "" text

/-- The parameters of a media type; those in parts come last. -/
def parameters (mediaType : String) : Except CharsetError (List (String × ParameterValue)) := do
  let all := (parts [] false mediaType.toList).map parameter
  let single := all.take 1 ++ (all.drop 1).filter fun p => (part? p).isNone
  let whole := single.map fun (name, value) => (name, ParameterValue.plain value)
  let pieces := (all.drop 1).filterMap part?
  let names := (pieces.map (·.1)).eraseDups
  let groups := names.map fun name => (name, (pieces.filter (·.1 = name)).map (·.2))
  if let some error := groups.findSome? fun (_, parts) => mixed? parts then throw error
  return whole ++ groups.map fun (name, parts) => (name, .ofParts parts)

/-- The text of a value.  A character set that is not known, or does not fit, does not count. -/
def ParameterValue.text : ParameterValue → Except CharsetError String
  | .plain text => .ok text
  | .encoded charset text =>
    let bytes := text.toList.map fun c => UInt8.ofNat c.toNat
    match Charset.ofName? (if charset = "" then "ascii" else charset) with
    | some (.unreadable .nullName) => if bytes = [] then .ok text else .error .nullName
    | some charset => .ok ((charset.decodeStrict? bytes).getD text)
    | none => .ok text

/-- The character set that a media type names; none if it is not known. -/
def namedCharset (mediaType : String) : Except CharsetError (Option Charset) := do
  match (← parameters mediaType).find? fun (name, _) => name.toLower = "charset" with
  | none => return none
  | some (_, value) =>
    let name ← value.text
    return if name.toList.all fun c => c.toNat < 128 then Charset.ofName? name else none

/-- The character set of a media type: the one that it names, or UTF-8. -/
def charset (mediaType : String) : Charset :=
  match namedCharset mediaType with
  | .ok charset => charset.getD .utf8
  | .error error => .unreadable error

end Headers

end TypeGraph
