/-!
# A place in a YAML text
-/

namespace TypeGraph.Yaml

/-- Why a text is not the YAML of a data value. -/
inductive Fault where
  /-- A control character. -/
  | control
  /-- A character that starts no token. -/
  | character
  /-- A block entry, key or value where none may stand. -/
  | misplaced
  /-- A key on a line of its own without a colon. -/
  | missingColon
  /-- A directive. -/
  | directive
  /-- The name of an anchor or an alias. -/
  | anchor
  /-- A tag. -/
  | tag
  /-- A quoted or block scalar. -/
  | scalar
  /-- Tokens that form no document, or more than one. -/
  | arrangement
  /-- A value that its tag does not allow. -/
  | construction
  /-- A text that is no number of the wanted form. -/
  | number (message : String)
  /-- A number without a digit or a sign. -/
  | blankNumber
  /-- A number that is too great. -/
  | overflow
  /-- A text that is no truth value. -/
  | truth (word : String)
  /-- Numbers that make no date or time. -/
  | moment (message : String)
  /-- A text that is no date or time. -/
  | notMoment
  /-- A date or time that is no text. -/
  | momentNode
  /-- Collections that are nested too deeply. -/
  | tooDeep
deriving DecidableEq, Repr

structure Cursor where
  rest : List Char
  /-- The length of the whole text. -/
  size : Nat := rest.length
  index : Nat := 0
  line : Nat := 0
  column : Nat := 0

def isBreak (c : Char) : Bool :=
  c = '\n' || c = '\r' || c.toNat = 0x85 || c.toNat = 0x2028 || c.toNat = 0x2029

def isBreakOrEnd : Option Char → Bool
  | none => true
  | some c => isBreak c

def isSpaceOrEnd : Option Char → Bool
  | some ' ' => true
  | c => isBreakOrEnd c

def isWhiteOrEnd : Option Char → Bool
  | some '\t' => true
  | c => isSpaceOrEnd c

def byteOrderMark : Char := Char.ofNat 0xFEFF

namespace Cursor

/-- How many characters follow. -/
def left (c : Cursor) : Nat := c.size - c.index

def peekAt (c : Cursor) (n : Nat) : Option Char := c.rest[n]?

def peek (c : Cursor) : Option Char := c.rest.head?

def advance (c : Cursor) : Cursor :=
  match c.rest with
  | [] => c
  | ch :: rest =>
    let next := { c with rest := rest, index := c.index + 1 }
    if isBreak ch ∧ !(ch = '\r' ∧ rest.head? = some '\n') then
      { next with line := c.line + 1, column := 0 }
    else if ch = byteOrderMark then next
    else { next with column := c.column + 1 }

def advanceBy (c : Cursor) : Nat → Cursor
  | 0 => c
  | n + 1 => c.advance.advanceBy n

def takeWhile (c : Cursor) (p : Char → Bool) : List Char × Cursor :=
  let run := c.rest.takeWhile p
  (run, c.advanceBy run.length)

def skipWhile (c : Cursor) (p : Char → Bool) : Cursor := (c.takeWhile p).2

/-- A line break in its normal form, and the place behind it.  The line and paragraph separators
stay what they are; any other line break becomes a line feed. -/
def lineBreak (c : Cursor) : List Char × Cursor :=
  match c.rest with
  | '\r' :: '\n' :: _ => (['\n'], c.advanceBy 2)
  | ch :: _ =>
    if ch.toNat = 0x2028 ∨ ch.toNat = 0x2029 then ([ch], c.advance)
    else if isBreak ch then (['\n'], c.advance)
    else ([], c)
  | [] => ([], c)

/-- Whether the three characters of a document mark stand here on their own. -/
def atMark (c : Cursor) (mark : Char) : Bool :=
  c.rest.take 3 = [mark, mark, mark] && isWhiteOrEnd (c.peekAt 3)

/-- Whether a document starts or ends here. -/
def atSeparator (c : Cursor) : Bool := c.atMark '-' || c.atMark '.'

def skipComment (c : Cursor) : Cursor :=
  if c.peek = some '#' then c.skipWhile (!isBreak ·) else c

end Cursor

end TypeGraph.Yaml
