import TypeGraph.Data.Json.Reader
import TypeGraph.Text.CodePoints
import TypeGraph.Text.Utf8
import TypeGraph.Yaml.Cursor

/-!
# Scalars, names and tags of a YAML text

Each reader starts at a place in the text and gives what it read and the place behind it.  Loops
take the length of the remaining text as their fuel, since every round moves ahead.
-/

namespace TypeGraph.Yaml

open Text (CodePoints)

def isNameChar (c : Char) : Bool := c.isAlphanum || c = '-' || c = '_'

def anchorName (c : Cursor) : Except Fault (String × Cursor) :=
  let (name, c) := c.takeWhile isNameChar
  let ends : Bool :=
    isWhiteOrEnd c.peek ||
      (match c.peek with
        | some ch => "?:,]%@".toList.contains ch || ch.toNat = 0x7D || ch.toNat = 0x60
        | none => true)
  if name = [] ∨ !ends then .error .anchor else .ok (String.ofList name, c)

def uriEscapes : (fuel : Nat) → Cursor → Except Fault (List UInt8 × Cursor)
  | 0, _ => .error .tag
  | fuel + 1, c =>
    match c.rest with
    | '%' :: a :: b :: _ =>
      match Json.hexNumber? [a, b] with
      | none => .error .tag
      | some n => do
        let c := c.advanceBy 3
        if c.peek = some '%' then
          let (bytes, c) ← uriEscapes fuel c
          return (n.toUInt8 :: bytes, c)
        else return ([n.toUInt8], c)
    | '%' :: _ => .error .tag
    | _ => .ok ([], c)

/-- A character that stands for itself in a tag. -/
def isUriChar (c : Char) : Bool :=
  c.isAlphanum || "-;/?:@&=+$,_.!~*'()[]".toList.contains c

/-- The text of a tag, up to the first character that cannot belong to it. -/
def uriText : (fuel : Nat) → Cursor → Except Fault (List Char × Cursor)
  | 0, c => .ok ([], c)
  | fuel + 1, c =>
    match c.takeWhile isUriChar with
    | (run, c) =>
      if c.peek = some '%' then do
        let (bytes, c) ← uriEscapes (c.left + 1) c
        match Utf8.decode? bytes with
        | none => .error .tag
        | some text =>
          let (more, c) ← uriText fuel c
          return (run ++ text.toList ++ more, c)
      else .ok (run, c)

def uri (c : Cursor) : Except Fault (String × Cursor) := do
  let (text, c) ← uriText (c.left + 1) c
  if text = [] then .error .tag else .ok (String.ofList text, c)

/-- A tag handle: an exclamation mark, alone or closing a name between two. -/
def tagHandle (c : Cursor) : Except Fault (String × Cursor) :=
  if c.peek ≠ some '!' then .error .tag
  else
    let c := c.advance
    if c.peek = some ' ' then .ok ("!", c)
    else
      let (name, c') := c.takeWhile isNameChar
      if c'.peek = some '!' then .ok (String.ofList ('!' :: name ++ ['!']), c'.advance)
      else .error .tag

/-- A tag: its handle, unless it is given in full, and its suffix. -/
def tag (c : Cursor) : Except Fault (Option String × String × Cursor) :=
  match c.peekAt 1 with
  | some '<' => do
    let (suffix, c) ← uri (c.advanceBy 2)
    if c.peek ≠ some '>' then .error .tag
    else
      let c := c.advance
      if isSpaceOrEnd c.peek then .ok (none, suffix, c) else .error .tag
  | next =>
    if isWhiteOrEnd next then
      let c := c.advance
      if isSpaceOrEnd c.peek then .ok (none, "!", c) else .error .tag
    else do
      let shorthand := (c.rest.drop 1).takeWhile fun ch => !isSpaceOrEnd (some ch)
      let (handle, c) ←
        if '!' ∈ shorthand then tagHandle c else .ok ("!", c.advance)
      let (suffix, c) ← uri c
      if isSpaceOrEnd c.peek then return (some handle, suffix, c) else .error .tag

/-! ## Quoted scalars -/

def escape? (c : Char) : Option Char :=
  (("0abt\tnvfre \"\\/N_LP".toList.zip
    ([0x00, 0x07, 0x08, 0x09, 0x09, 0x0A, 0x0B, 0x0C, 0x0D, 0x1B, 0x20, 0x22, 0x5C, 0x2F, 0x85,
      0xA0, 0x2028, 0x2029].map Char.ofNat)).lookup c)

def codeLength? (c : Char) : Option Nat :=
  if c = 'x' then some 2 else if c = 'u' then some 4 else if c = 'U' then some 8 else none

/-- The line breaks of a folded quoted scalar, from behind the first one. -/
def quotedBreaks : (fuel : Nat) → Cursor → Except Fault (List Char × Cursor)
  | 0, c => .ok ([], c)
  | fuel + 1, c =>
    if c.atSeparator then .error .scalar
    else
      let c := c.skipWhile fun ch => ch = ' ' || ch = '\t'
      match c.lineBreak with
      | ([], c) => .ok ([], c)
      | (br, c) => do
        let (more, c) ← quotedBreaks fuel c
        return (br ++ more, c)

/-- The blanks and line breaks between the words of a quoted scalar. -/
def quotedSpaces (c : Cursor) : Except Fault (List Char × Cursor) :=
  let (blanks, c) := c.takeWhile fun ch => ch = ' ' || ch = '\t'
  match c.peek with
  | none => .error .scalar
  | some ch =>
    if !isBreak ch then .ok (blanks, c)
    else do
      let (br, c) := c.lineBreak
      let (breaks, c) ← quotedBreaks (c.left + 1) c
      let first := if br ≠ ['\n'] then br else if breaks = [] then [' '] else []
      return (first ++ breaks, c)

/-- Checks the number of a code escape. -/
def codePoint (n : Nat) : Except Fault Nat :=
  if n < 0x110000 then .ok n
  else if n < 0x80000000 then .error (.number "chr() arg not in range(0x110000)")
  else .error .overflow

/-- The words of a quoted scalar, up to a blank, a line break or the closing quote. -/
def quotedWords (double : Bool) : (fuel : Nat) → Cursor → Except Fault (CodePoints × Cursor)
  | 0, c => .ok ([], c)
  | fuel + 1, c =>
    let isPlain (ch : Char) : Bool :=
      !(ch = '\'' || ch = '"' || ch = '\\' || isWhiteOrEnd (some ch))
    let (run, c) := c.takeWhile isPlain
    let continueWith (text : CodePoints) (c : Cursor) : Except Fault (CodePoints × Cursor) := do
      let (more, c) ← quotedWords double fuel c
      return (CodePoints.ofChars run ++ text ++ more, c)
    match c.peek with
    | some '\'' =>
      if double then continueWith [0x27] c.advance
      else if c.peekAt 1 = some '\'' then continueWith [0x27] (c.advanceBy 2)
      else .ok (CodePoints.ofChars run, c)
    | some '"' => if double then .ok (CodePoints.ofChars run, c) else continueWith [0x22] c.advance
    | some '\\' =>
      if !double then continueWith [0x5C] c.advance
      else
        let c := c.advance
        match c.peek with
        | none => .error .scalar
        | some e =>
          match escape? e, codeLength? e with
          | some ch, _ => continueWith [ch.toNat] c.advance
          | none, some length => do
            let c := c.advance
            let digits := c.rest.take length
            if digits.length ≠ length then .error .scalar
            else
              match Json.hexNumber? digits with
              | none => .error .scalar
              | some n => continueWith [← codePoint n] (c.advanceBy length)
          | none, none =>
            if isBreak e then do
              let (breaks, c) ← quotedBreaks (c.left + 1) c.lineBreak.2
              continueWith (CodePoints.ofChars breaks) c
            else .error .scalar
    | _ => .ok (CodePoints.ofChars run, c)

def quotedText (double : Bool) : (fuel : Nat) → Cursor → Except Fault (CodePoints × Cursor)
  | 0, _ => .error .scalar
  | fuel + 1, c => do
    let (words, c) ← quotedWords double (c.left + 1) c
    if c.peek = some (if double then '"' else '\'') then return (words, c.advance)
    else
      let (spaces, c) ← quotedSpaces c
      let (more, c) ← quotedText double fuel c
      return (words ++ CodePoints.ofChars spaces ++ more, c)

/-! ## Plain scalars -/

/-- The number of characters of a plain scalar up to its next blank or its end. -/
def plainLength (inFlow : Bool) : List Char → Nat
  | [] => 0
  | ch :: rest =>
    let isFlowMark (c : Char) : Bool :=
      c = ',' || c = '[' || c = ']' || c.toNat = 0x7B || c.toNat = 0x7D
    let afterColon : Bool :=
      isWhiteOrEnd rest.head? || (inFlow && (rest.head?.map isFlowMark).getD false)
    if isWhiteOrEnd (some ch) || (ch = ':' && afterColon) ||
        (inFlow && (ch = '?' || isFlowMark ch)) then 0
    else plainLength inFlow rest + 1

/-- Blanks and line breaks behind the first line break inside a plain scalar; nothing where a
document mark follows. -/
def plainBreaks : (fuel : Nat) → Cursor → Option (List Char) × Cursor
  | 0, c => (some [], c)
  | fuel + 1, c =>
    match c.peek with
    | some ' ' => plainBreaks fuel c.advance
    | _ =>
      match c.lineBreak with
      | ([], c) => (some [], c)
      | (br, c) =>
        if c.atSeparator then (none, c)
        else
          let (more, c) := plainBreaks fuel c
          (more.map (br ++ ·), c)

/-- What stands between two words of a plain scalar, whether a line was ended, and the place behind.
Nothing is given where the scalar must end. -/
def plainSpaces (c : Cursor) : List Char × Bool × Cursor :=
  let (blanks, c) := c.takeWhile (· = ' ')
  match c.lineBreak with
  | ([], c) => (blanks, false, c)
  | (br, c) =>
    if c.atSeparator then ([], true, c)
    else
      match plainBreaks (c.left + 1) c with
      | (none, c) => ([], true, c)
      | (some breaks, c) =>
        let first := if br ≠ ['\n'] then br else if breaks = [] then [' '] else []
        (first ++ breaks, true, c)

/-- The text of a plain scalar, which is deeper than `indent` on every line; also whether its last
blanks ended a line. -/
def plainText (inFlow : Bool) (indent : Int) :
    (fuel : Nat) → (spaces : List Char) → (broken : Bool) → Cursor → List Char × Bool × Cursor
  | 0, _, broken, c => ([], broken, c)
  | fuel + 1, spaces, broken, c =>
    let length := plainLength inFlow c.rest
    if c.peek = some '#' ∨ length = 0 then ([], broken, c)
    else
      let word := spaces ++ c.rest.take length
      let (spaces, broken, c) := plainSpaces (c.advanceBy length)
      if spaces = [] ∨ c.peek = some '#' ∨ (!inFlow ∧ (c.column : Int) ≤ indent) then
        (word, broken, c)
      else
        let (more, broken, c) := plainText inFlow indent fuel spaces broken c
        (word ++ more, broken, c)

/-! ## Block scalars -/

/-- What happens to the line breaks at the end of a block scalar. -/
inductive Chomping where
  | strip
  | clip
  | keep
deriving DecidableEq, Repr

def chomping? (c : Cursor) : Option Chomping :=
  match c.peek with
  | some '+' => some .keep
  | some '-' => some .strip
  | _ => none

/-- The digit of an indentation indicator; zero is refused. -/
def indentDigit (c : Cursor) : Except Fault (Option Nat) :=
  match c.peek with
  | some ch =>
    if ch = '0' then .error .scalar
    else if ch.isDigit then .ok (some (ch.toNat - 0x30))
    else .ok none
  | none => .ok none

/-- The indicators behind the mark of a block scalar, in either order. -/
def blockIndicators (c : Cursor) : Except Fault (Chomping × Option Nat × Cursor) := do
  let first := chomping? c
  let c := if first.isSome then c.advance else c
  let digit ← indentDigit c
  let c := if digit.isSome then c.advance else c
  let second := if first.isNone ∧ digit.isSome then chomping? c else none
  let c := if second.isSome then c.advance else c
  if isSpaceOrEnd c.peek then return ((first.or second).getD .clip, digit, c) else .error .scalar

/-- The rest of a line that may hold nothing but blanks and a comment. -/
def ignoredLine (fault : Fault) (c : Cursor) : Except Fault Cursor :=
  let c := (c.skipWhile (· = ' ')).skipComment
  if isBreakOrEnd c.peek then .ok c.lineBreak.2 else .error fault

/-- The empty lines at the start of a block scalar and the deepest indentation among them. -/
def blockIndentation : (fuel : Nat) → (deepest : Nat) → Cursor → List Char × Nat × Cursor
  | 0, deepest, c => ([], deepest, c)
  | fuel + 1, deepest, c =>
    match c.peek with
    | some ' ' =>
      let c := c.advance
      blockIndentation fuel (max deepest c.column) c
    | _ =>
      match c.lineBreak with
      | ([], c) => ([], deepest, c)
      | (br, c) =>
        let (more, deepest, c) := blockIndentation fuel deepest c
        (br ++ more, deepest, c)

/-- Skips blanks up to a column. -/
def skipToColumn (column : Nat) (c : Cursor) : Cursor :=
  c.advanceBy (min (column - c.column) (c.rest.takeWhile (· = ' ')).length)

/-- The empty lines inside a block scalar, each as its line break. -/
def blockBreaks (indent : Nat) : (fuel : Nat) → Cursor → List (List Char) × Cursor
  | 0, c => ([], c)
  | fuel + 1, c =>
    match (skipToColumn indent c).lineBreak with
    | ([], c) => ([], c)
    | (br, c) =>
      let (more, c) := blockBreaks indent fuel c
      (br :: more, c)

/-- The lines of a block scalar, with the empty lines `breaks` in front of the next one. -/
def blockLines (folded : Bool) (chomping : Chomping) (indent : Nat) :
    (fuel : Nat) → (breaks : List (List Char)) → (lineBreak : List Char) → Cursor →
      List Char × Cursor
  | 0, _, _, c => ([], c)
  | fuel + 1, breaks, lineBreak, c =>
    let tail : List Char :=
      match chomping with
      | .strip => []
      | .clip => lineBreak
      | .keep => lineBreak ++ breaks.flatten
    if c.column ≠ indent ∨ c.peek = none then (tail, c)
    else
      let isBlankStart (p : Option Char) : Bool := p = some ' ' || p = some '\t'
      let leading := !isBlankStart c.peek
      let (text, c) := c.takeWhile (!isBreak ·)
      let (br, c) := c.lineBreak
      let (next, c) := blockBreaks indent (c.left + 1) c
      let joint : List Char :=
        if c.column ≠ indent ∨ c.peek = none then []
        else if folded ∧ br = ['\n'] ∧ leading ∧ !isBlankStart c.peek then
          if next = [] then [' '] else []
        else br
      let (more, c) := blockLines folded chomping indent fuel next br c
      (breaks.flatten ++ text ++ joint ++ more, c)

/-- The text of a block scalar from behind its mark, inside a block of the given indentation. -/
def blockText (folded : Bool) (parent : Int) (c : Cursor) : Except Fault (List Char × Cursor) := do
  let (chomping, increment, c) ← blockIndicators c
  let c ← ignoredLine .scalar c
  let least := max 1 (parent + 1).toNat
  match increment with
  | none =>
    let (breaks, deepest, c) := blockIndentation (c.left + 1) 0 c
    return blockLines folded chomping (max least deepest) (c.left + 1) [breaks] [] c
  | some n =>
    let indent := least + n - 1
    let (breaks, c) := blockBreaks indent (c.left + 1) c
    return blockLines folded chomping indent (c.left + 1) breaks [] c

end TypeGraph.Yaml
