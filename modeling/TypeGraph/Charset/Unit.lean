import TypeGraph.Text.Utf8

/-!
# Texts in units of two or four bytes

A unit of four bytes is a code point.  A unit of two bytes is a code point or half of a pair.  A
mark in front may tell which byte of a unit comes first.
-/

namespace TypeGraph.Charset

open Utf8 (replacement)

inductive ByteOrder where
  | lowFirst
  | highFirst
deriving DecidableEq, Repr

def ByteOrder.number (order : ByteOrder) (bytes : List UInt8) : Nat :=
  let highFirst := match order with
    | .lowFirst => bytes.reverse
    | .highFirst => bytes
  highFirst.foldl (fun n b => 256 * n + b.toNat) 0

/-- The units of two bytes; a byte that is left over is none. -/
def pairUnits (order : ByteOrder) : List UInt8 → List (Option Nat)
  | [] => []
  | [_] => [none]
  | a :: b :: rest => some (order.number [a, b]) :: pairUnits order rest

/-- The units of four bytes; bytes that are left over are none. -/
def quadUnits (order : ByteOrder) : List UInt8 → List (Option Nat)
  | [] => []
  | a :: b :: c :: d :: rest => some (order.number [a, b, c, d]) :: quadUnits order rest
  | _ :: _ => [none]

def isFirstHalf (n : Nat) : Bool := 0xD800 ≤ n && n < 0xDC00

def isSecondHalf (n : Nat) : Bool := 0xDC00 ≤ n && n < 0xE000

def pairChar (first second : Nat) : Char :=
  Char.ofNat (0x10000 + (first - 0xD800) * 0x400 + (second - 0xDC00))

/-- Reads units as text; `done` is what was read, last character first, and `half` the first half of
a pair whose second half may follow.  Half a pair gives the replacement character, and so does all
that is left of a character at the end. -/
def unitsInto (done : List Char) (half : Option Nat) : List (Option Nat) → List Char
  | [] => (if half.isSome then replacement :: done else done).reverse
  | none :: _ => (replacement :: done).reverse
  | some n :: rest =>
    match half with
    | some first =>
      if isSecondHalf n then unitsInto (pairChar first n :: done) none rest
      else if isFirstHalf n then unitsInto (replacement :: done) (some n) rest
      else unitsInto (Char.ofNat n :: replacement :: done) none rest
    | none =>
      if isFirstHalf n then unitsInto done (some n) rest
      else if isSecondHalf n then unitsInto (replacement :: done) none rest
      else unitsInto (Char.ofNat n :: done) none rest

def ofPairs (order : ByteOrder) (bytes : List UInt8) : List Char :=
  unitsInto [] none (pairUnits order bytes)

/-- The character of a code point; a number that is none gives the replacement character. -/
def codeChar (n : Nat) : Char := if n.isValidChar then Char.ofNat n else replacement

def ofQuads (order : ByteOrder) (bytes : List UInt8) : List Char :=
  (quadUnits order bytes).map fun unit => (unit.map codeChar).getD replacement

/-- The order that the mark in front of units of `size` bytes tells, and the bytes behind it. -/
def markedOrder? (size : Nat) (bytes : List UInt8) : Option (ByteOrder × List UInt8) :=
  let front := bytes.take size
  let rest := bytes.drop size
  if front.length = size ∧ ByteOrder.lowFirst.number front = 0xFEFF then some (.lowFirst, rest)
  else if front.length = size ∧ ByteOrder.highFirst.number front = 0xFEFF then
    some (.highFirst, rest)
  else none

end TypeGraph.Charset
