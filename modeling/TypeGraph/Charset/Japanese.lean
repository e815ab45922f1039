import TypeGraph.Charset.Japanese.Extension
import TypeGraph.Charset.Japanese.Kanji
import TypeGraph.Charset.Japanese.Supplement
import TypeGraph.Charset.Stream

/-!
# Japanese character sets

The Japanese characters are written in two ways: with two high bytes, or in a shifted form, which
leaves room for half-width katakana in single bytes.
-/

namespace TypeGraph.Charset

inductive JapaneseEdition where
  | first
  | second
deriving DecidableEq, Repr

def katakana? (b : UInt8) : Option Char :=
  if 0xA1 ≤ b ∧ b ≤ 0xDF then some (Char.ofNat (0xFEC0 + b.toNat)) else none

/-- The character of a cell of the first block, as the standard extends it. -/
def extended? (edition : JapaneseEdition) (cell : Nat) : Option (List Char) :=
  if edition = .first ∧ laterCells.contains cell then none
  else
    match kanji.get? cell with
    | some c => some [c]
    | none =>
      match firstPlane.get? cell with
      | some c => some [c]
      | none => (firstPlanePairs.lookup cell).map String.toList

/-- Reads a cell of the first block from two bytes; both are wrong where the first edition left a
cell free. -/
def extendedFound (edition : JapaneseEdition) (cell : Nat) : Step Unit :=
  if edition = .first ∧ laterCells.contains cell then .wrong 2 else found 2 (extended? edition cell)

/-- The one cell of the second block that the second edition changed. -/
def changedCell : Nat := 8674

def second? (edition : JapaneseEdition) (cell : Nat) : Option (List Char) :=
  if edition = .first ∧ cell = changedCell then some ['鬝']
  else (secondPlane.get? cell).map ([·])

/-! ## High bytes -/

/-- Reads high bytes: two for a character of the first block, and behind a mark one for katakana or
two for a character of the second block. -/
def highStep (first : Nat → Step Unit) (second : Nat → Option (List Char)) (bytes : List UInt8) :
    Step Unit :=
  match bytes with
  | [] => .unfinished
  | [a] => if a < 0x80 then single (asciiChar a) else .unfinished
  | a :: b :: rest =>
    if a < 0x80 then single (asciiChar a)
    else if a = 0x8E then found 2 ((katakana? b).map ([·]))
    else if a = 0x8F then
      match rest with
      | [] => .unfinished
      | c :: _ => found 3 ((highCell? b c).bind second)
    else
      match highCell? a b with
      | some cell => first cell
      | none => .wrong 1

def japaneseStep : List UInt8 → Step Unit :=
  highStep (fun cell => found 2 ((kanji.get? cell).map ([·]))) fun cell =>
    (supplement.get? cell).map ([·])

def tildeCell : Nat := 111

def backslashCell : Nat := 31

def extendedStep (edition : JapaneseEdition) : List UInt8 → Step Unit :=
  highStep (fun cell =>
      if cell = tildeCell then .chars ['～'] 2 () else extendedFound edition cell) fun cell =>
    (second? edition cell).or ((supplement.get? cell).map ([·]))

/-! ## The shifted form -/

/-- The row and the column of two bytes of the shifted form, counted from zero. -/
def shiftedCell? (a b : UInt8) : Option (Nat × Nat) :=
  if 0x40 ≤ b ∧ b ≤ 0xFC ∧ b ≠ 0x7F then
    let row := if a < 0xE0 then a.toNat - 0x81 else a.toNat - 0xC1
    let column := if b < 0x80 then b.toNat - 0x40 else b.toNat - 0x41
    some (if column < side then (2 * row, column) else (2 * row + 1, column - side))
  else none

def isShiftedLead (a : UInt8) : Bool := (0x81 ≤ a && a ≤ 0x9F) || (0xE0 ≤ a && a ≤ 0xFC)

/-- Reads the shifted form, where `one` is the character of a single byte, and `pair` reads two
bytes by their row and column. -/
def shiftedStep (one : UInt8 → Option Char) (pair : Nat → Nat → Step Unit) (bytes : List UInt8) :
    Step Unit :=
  match bytes with
  | [] => .unfinished
  | a :: rest =>
    match one a, rest with
    | some c, _ => single c
    | none, [] => if isShiftedLead a then .unfinished else .wrong 1
    | none, b :: _ =>
      match if isShiftedLead a then shiftedCell? a b else none with
      | some (row, column) => pair row column
      | none => .wrong 1

def plainByte? (b : UInt8) : Option Char := if b < 0x80 then some (asciiChar b) else katakana? b

def shiftedKanjiStep : List UInt8 → Step Unit :=
  shiftedStep plainByte? fun row column =>
    found 2 (if row < side then (kanji.get? (row * side + column)).map ([·]) else none)

/-- The character of a byte where makers of computers filled all bytes. -/
def vendorByte? (b : UInt8) : Option Char :=
  if b ≤ 0x80 then some (asciiChar b)
  else if b = 0xA0 then some (Char.ofNat 0xF8F0)
  else if 0xFD ≤ b then some (Char.ofNat (0xF8F1 + (b.toNat - 0xFD)))
  else katakana? b

/-- The rows that makers of computers left to their users: from the first on, up to the second. -/
def privateRows : Nat × Nat := (94, 114)

def vendorStep : List UInt8 → Step Unit :=
  shiftedStep vendorByte? fun row column =>
    let cell := row * side + column
    if privateRows.1 ≤ row ∧ row < privateRows.2 then
      .chars [Char.ofNat (0xE000 + (cell - privateRows.1 * side))] 2 ()
    else
      let common := if row < side then kanji.get? cell else none
      found 2 (((vendor.get? cell).or common).map ([·]))

/-- The Roman letters of the Japanese: yen and overline stand for backslash and tilde. -/
def roman (b : UInt8) : Char :=
  if b = 0x5C then '¥' else if b = 0x7E then '‾' else asciiChar b

/-- The row of the second block that a row behind the first block stands for. -/
def secondRow (row : Nat) : Nat :=
  if 0x67 ≤ row then row + 7 - 0x21
  else if 0x63 ≤ row ∨ row = 0x5F then row - 0x37 - 0x21
  else row - 0x3D - 0x21

/-- Reads the extended characters in the shifted form, where the backslash is narrow. -/
def shiftedExtendedStep (edition : JapaneseEdition) : List UInt8 → Step Unit :=
  shiftedStep (fun b => if b < 0x80 then some (roman b) else katakana? b) fun row column =>
    let cell := row * side + column
    if cell = backslashCell then .chars ['\\'] 2 ()
    else if row < side then extendedFound edition cell
    else found 2 (second? edition (secondRow row * side + column))

end TypeGraph.Charset
