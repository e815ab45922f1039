import TypeGraph.Number.Integer
import TypeGraph.Yaml.Lexeme

/-!
# Tokens of a YAML text

The text becomes a sequence of tokens in which the nesting that indentation expresses is explicit.
A key need not be marked: when a colon follows a scalar or a collection on the same line, the key
token is put in front of it afterwards, and so is the start of a block mapping if the key opens
one.  Tokens are read on demand, and no further than it takes to know that nothing will be put in
front of the first of them; so a fault of the text is found only where reading gets to it.
-/

namespace TypeGraph.Yaml

open Text (CodePoints)

inductive Token where
  | version (major minor : Nat)
  | tagHandle (handle meaning : String)
  | otherDirective
  | documentStart
  | documentEnd
  | streamEnd
  | blockSequenceStart
  | blockMappingStart
  | blockEnd
  | flowSequenceStart
  | flowSequenceEnd
  | flowMappingStart
  | flowMappingEnd
  | blockEntry
  | flowEntry
  | key
  | value
  | alias (name : String)
  | anchor (name : String)
  | tag (handle : Option String) (suffix : String)
  | scalar (text : CodePoints) (plain : Bool)
deriving DecidableEq, Repr

structure PendingKey where
  /-- Where the key token would go, counted from the start of the text. -/
  token : Nat
  /-- Whether a colon has to follow. -/
  required : Bool
  index : Nat
  line : Nat
  column : Nat

structure Scan where
  cursor : Cursor
  /-- How many flow collections are open. -/
  flow : Nat := 0
  /-- The indentation of the innermost block. -/
  indent : Int := -1
  /-- The indentations of the blocks around it. -/
  outer : List Int := []
  /-- Whether a key may start here. -/
  keyAllowed : Bool := true
  /-- The pending key of each flow level. -/
  pending : List (Nat × PendingKey) := []
  /-- The tokens that were read and not yet taken. -/
  tokens : List Token := []
  /-- How many tokens were taken. -/
  taken : Nat := 0
  /-- Whether the text is at its end. -/
  done : Bool := false

namespace Scan

def inFlow (s : Scan) : Bool := s.flow ≠ 0

def push (s : Scan) (t : Token) : Scan := { s with tokens := s.tokens ++ [t] }

/-- Adds a token, moves to a place and says whether a key may start there. -/
def emit (s : Scan) (t : Token) (c : Cursor) (keyAllowed : Bool) : Scan :=
  { s.push t with cursor := c, keyAllowed := keyAllowed }

/-- Puts a token in at an index, counted from the start of the text. -/
def insert (s : Scan) (i : Nat) (t : Token) : Scan :=
  let waiting := i - s.taken
  { s with tokens := s.tokens.take waiting ++ t :: s.tokens.drop waiting }

/-- Forgets the pending key of the current flow level; a required one must not be forgotten. -/
def dropPending (s : Scan) : Except Fault Scan :=
  match s.pending.lookup s.flow with
  | none => .ok s
  | some key =>
    if key.required then .error .missingColon
    else .ok { s with pending := s.pending.filter (·.1 ≠ s.flow) }

/-- Notes that a key may start here. -/
def savePending (s : Scan) : Except Fault Scan := do
  if !s.keyAllowed then return s
  let c := s.cursor
  let key : PendingKey :=
    { token := s.taken + s.tokens.length
      required := !s.inFlow && s.indent = c.column
      index := c.index
      line := c.line
      column := c.column }
  let s ← s.dropPending
  return { s with pending := (s.flow, key) :: s.pending }

/-- Forgets pending keys that lie on another line or too far back. -/
def dropStale (s : Scan) : Except Fault Scan :=
  let isStale (key : PendingKey) : Bool :=
    key.line ≠ s.cursor.line || key.index + 1024 < s.cursor.index
  if s.pending.any fun (_, key) => isStale key && key.required then .error .missingColon
  else .ok { s with pending := s.pending.filter fun (_, key) => !isStale key }

/-- Closes the blocks that are deeper than a column. -/
def unwindFrom (s : Scan) (column : Int) : List Int → Scan
  | [] => s
  | outer :: rest =>
    if s.indent > column then
      unwindFrom { s.push .blockEnd with indent := outer, outer := rest } column rest
    else s

/-- Closes the blocks that are deeper than a column, unless a flow collection is open. -/
def unwind (s : Scan) (column : Int) : Scan :=
  if s.inFlow then s else s.unwindFrom column s.outer

/-- Opens a block at a column, if it is deeper than the current one. -/
def openBlock (s : Scan) (column : Int) : Option Scan :=
  if s.indent < column then some { s with outer := s.indent :: s.outer, indent := column } else none

/-- Skips blanks, comments and line breaks; behind a line break of block content a key may start. -/
def skipToToken : (fuel : Nat) → Scan → Scan
  | 0, s => s
  | fuel + 1, s =>
    let c := (s.cursor.skipWhile (· = ' ')).skipComment
    match c.lineBreak with
    | ([], c) => { s with cursor := c }
    | (_, c) =>
      skipToToken fuel { s with cursor := c, keyAllowed := s.keyAllowed || !s.inFlow }

def versionNumber (c : Cursor) : Except Fault (Nat × Cursor) :=
  let (digits, c) := c.takeWhile Char.isDigit
  if digits = [] then .error .directive
  else
    match Integer.readNatural 10 digits with
    | .ok n => .ok (n, c)
    | .error e => .error (.number (e.message 10 (CodePoints.ofChars digits)))

def directive (c : Cursor) : Except Fault (Token × Cursor) := do
  let (name, c) := c.takeWhile isNameChar
  if name = [] ∨ !isSpaceOrEnd c.peek then throw .directive
  let name := String.ofList name
  if name = "YAML" then
    let (major, c) ← versionNumber (c.skipWhile (· = ' '))
    if c.peek ≠ some '.' then throw .directive
    let (minor, c) ← versionNumber c.advance
    if !isSpaceOrEnd c.peek then throw .directive
    return (.version major minor, ← ignoredLine .directive c)
  else if name = "TAG" then
    let (handle, c) ← tagHandle (c.skipWhile (· = ' '))
    if c.peek ≠ some ' ' then throw .directive
    let (meaning, c) ← uri (c.skipWhile (· = ' '))
    if !isSpaceOrEnd c.peek then throw .directive
    return (.tagHandle handle meaning, ← ignoredLine .directive c)
  else
    let c := c.skipWhile (!isBreak ·)
    return (.otherDirective, ← ignoredLine .directive c)

def boundary (s : Scan) (read : Cursor → Except Fault (Token × Cursor)) : Except Fault Scan := do
  let s ← (s.unwind (-1)).dropPending
  let (t, c) ← read s.cursor
  return s.emit t c false

def flowStart (s : Scan) (t : Token) : Except Fault Scan := do
  let s ← s.savePending
  return { s.emit t s.cursor.advance true with flow := s.flow + 1 }

def flowEnd (s : Scan) (t : Token) : Except Fault Scan := do
  if s.flow = 0 then throw .arrangement
  let s ← s.dropPending
  return { s.emit t s.cursor.advance false with flow := s.flow - 1 }

/-- Opens a block at the current column where one may start. -/
def openHere (s : Scan) (t : Token) : Except Fault Scan :=
  if s.inFlow then .ok s
  else if !s.keyAllowed then .error .misplaced
  else .ok (((s.openBlock s.cursor.column).map (·.push t)).getD s)

def blockEntry (s : Scan) : Except Fault Scan := do
  let s ← s.openHere .blockSequenceStart
  let s ← s.dropPending
  return s.emit .blockEntry s.cursor.advance true

def keyMark (s : Scan) : Except Fault Scan := do
  let s ← s.openHere .blockMappingStart
  let s ← s.dropPending
  return s.emit .key s.cursor.advance (!s.inFlow)

def valueMark (s : Scan) : Except Fault Scan :=
  match s.pending.lookup s.flow with
  | some key =>
    let s := { s with pending := s.pending.filter (·.1 ≠ s.flow) }
    let s := s.insert key.token .key
    let s :=
      if s.inFlow then s
      else ((s.openBlock key.column).map (·.insert key.token .blockMappingStart)).getD s
    .ok (s.emit .value s.cursor.advance false)
  | none => do
    let s ← s.openHere .blockMappingStart
    let s ← s.dropPending
    return s.emit .value s.cursor.advance (!s.inFlow)

def content (s : Scan) (read : Cursor → Except Fault (Token × Cursor)) : Except Fault Scan := do
  let s ← s.savePending
  let (t, c) ← read s.cursor
  return s.emit t c false

def plainScalar (s : Scan) : Except Fault Scan := do
  let s ← s.savePending
  let (text, broken, c) :=
    plainText s.inFlow s.indent (s.cursor.left + 1) [] false s.cursor
  return s.emit (.scalar (CodePoints.ofChars text) true) c broken

def blockScalar (s : Scan) (folded : Bool) : Except Fault Scan := do
  let s ← s.dropPending
  let (text, c) ← blockText folded s.indent s.cursor.advance
  return s.emit (.scalar (CodePoints.ofChars text) false) c true

def quotedScalar (double : Bool) (c : Cursor) : Except Fault (Token × Cursor) := do
  let (text, c) ← quotedText double (c.left + 1) c.advance
  return (.scalar text false, c)

/-- Whether a plain scalar may start with a character that is followed by another one. -/
def startsPlain (inFlow : Bool) (ch : Char) (next : Option Char) : Bool :=
  let isIndicator : Bool :=
    "-?:,[]#&*!|>'\"%@".toList.contains ch || ch.toNat = 0x7B || ch.toNat = 0x7D || ch.toNat = 0x60
  (!isWhiteOrEnd (some ch) && !isIndicator) ||
    (!isWhiteOrEnd next && (ch = '-' || (!inFlow && (ch = '?' || ch = ':'))))

def next (s : Scan) : Except Fault Scan := do
  let s := s.skipToToken (s.cursor.left + 1)
  let s ← s.dropStale
  let s := s.unwind s.cursor.column
  let c := s.cursor
  let following := c.peekAt 1
  let mark (t : Token) : Except Fault Scan := s.boundary fun c => .ok (t, c.advanceBy 3)
  match c.peek with
  | none => return { ← s.boundary (fun c => .ok (.streamEnd, c)) with done := true }
  | some ch =>
    if c.column = 0 ∧ ch = '%' then s.boundary fun c => directive c.advance
    else if c.column = 0 ∧ c.atMark '-' then mark .documentStart
    else if c.column = 0 ∧ c.atMark '.' then mark .documentEnd
    else if ch = '[' then s.flowStart .flowSequenceStart
    else if ch = ']' then s.flowEnd .flowSequenceEnd
    else if ch.toNat = 0x7B then s.flowStart .flowMappingStart
    else if ch.toNat = 0x7D then s.flowEnd .flowMappingEnd
    else if ch = ',' then
      return (← s.dropPending).emit .flowEntry c.advance true
    else if ch = '-' ∧ isWhiteOrEnd following then s.blockEntry
    else if ch = '?' ∧ (s.inFlow ∨ isWhiteOrEnd following) then s.keyMark
    else if ch = ':' ∧ (s.inFlow ∨ isWhiteOrEnd following) then s.valueMark
    else if ch = '*' then
      s.content fun c => (anchorName c.advance).map fun (n, c) => (.alias n, c)
    else if ch = '&' then
      s.content fun c => (anchorName c.advance).map fun (n, c) => (.anchor n, c)
    else if ch = '!' then s.content fun c => (tag c).map fun (h, t, c) => (.tag h t, c)
    else if ch = '|' ∧ !s.inFlow then s.blockScalar false
    else if ch = '>' ∧ !s.inFlow then s.blockScalar true
    else if ch = '\'' then s.content (quotedScalar false)
    else if ch = '"' then s.content (quotedScalar true)
    else if startsPlain s.inFlow ch following then s.plainScalar
    else throw .character

/-- Whether the first waiting token is not known yet: there is none, or a key may still be put in
front of it. -/
def wantsMore (s : Scan) : Except Fault (Scan × Bool) := do
  if s.done then return (s, false)
  if s.tokens.isEmpty then return (s, true)
  let s ← s.dropStale
  return (s, s.pending.any fun (_, key) => key.token = s.taken)

/-- How many tokens it takes at most to know the first one: a key is given up after 1024 characters,
and every token takes a character. -/
def lookahead : Nat := 1028

/-- Reads tokens until the first waiting one is known. -/
def ready : (fuel : Nat) → Scan → Except Fault Scan
  | 0, s => .ok s
  | fuel + 1, s => do
    let (s, more) ← s.wantsMore
    if more then ready fuel (← s.next) else return s

def take (s : Scan) : Scan :=
  match s.tokens with
  | [] => s
  | _ :: rest => { s with tokens := rest, taken := s.taken + 1 }

end Scan

def isAllowed (c : Char) : Bool :=
  let n := c.toNat
  n = 0x09 || n = 0x0A || n = 0x0D || (0x20 ≤ n && n ≤ 0x7E) || n = 0x85 ||
    (0xA0 ≤ n && n ≤ 0xFFFD) || 0x10000 ≤ n

/-- The start of a text.  A byte order mark is passed over. -/
def Scan.ofText (text : String) : Except Fault Scan :=
  let s := text.toList
  if !s.all isAllowed then .error .control
  else
    let start : Cursor := { rest := s }
    .ok { cursor := if s.head? = some byteOrderMark then start.advance else start }

end TypeGraph.Yaml
