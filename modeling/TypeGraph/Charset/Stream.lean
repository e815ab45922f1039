import TypeGraph.Charset.Grid

/-!
# Reading bytes step by step

In a large character set some bytes in a row are one character, or change how those behind them are
read.  A step says what the first bytes are.  Bytes that are wrong give the replacement character;
bytes that are left over at the end give one together.
-/

namespace TypeGraph.Charset

open Utf8 (replacement)

inductive Step (σ : Type) where
  /-- Characters, which may be none, in `size` bytes, and the state behind them. -/
  | chars (text : List Char) (size : Nat) (state : σ)
  /-- `size` bytes that are no characters. -/
  | wrong (size : Nat)
  /-- The start of something longer. -/
  | unfinished
  /-- Something for which nothing is laid down. -/
  | undesignated

inductive Reading where
  /-- The characters, last one first, and the bytes that are left over. -/
  | done (text : List Char) (left : List UInt8)
  | undesignated

/-- Reads bytes from a state on; `text` is what was read, last character first.  A step takes at
least one byte. -/
def readFrom {σ : Type} (step : σ → List UInt8 → Step σ) :
    (fuel : Nat) → σ → (text : List Char) → List UInt8 → Reading
  | 0, _, text, bytes => .done text bytes
  | fuel + 1, state, text, bytes =>
    if bytes = [] then .done text []
    else
      match step state bytes with
      | .chars more size state => readFrom step fuel state (more.reverse ++ text) (bytes.drop size)
      | .wrong size => readFrom step fuel state (replacement :: text) (bytes.drop size)
      | .unfinished => .done text bytes
      | .undesignated => .undesignated

def read {σ : Type} (step : σ → List UInt8 → Step σ) (state : σ) (bytes : List UInt8) : Reading :=
  readFrom step bytes.length state [] bytes

/-- A step without a state that finds a character in some bytes, or else finds the first one
wrong. -/
def found (size : Nat) : Option (List Char) → Step Unit
  | some text => .chars text size ()
  | none => .wrong 1

def single (c : Char) : Step Unit := .chars [c] 1 ()

def asciiChar (b : UInt8) : Char := Char.ofNat b.toNat

/-- A step that takes a byte below 128 for itself, and any other one together with the next. -/
def pairStep (pair : UInt8 → UInt8 → Option (List Char)) : List UInt8 → Step Unit
  | [] => .unfinished
  | [a] => if a < 0x80 then single (asciiChar a) else .unfinished
  | a :: b :: _ => if a < 0x80 then single (asciiChar a) else found 2 (pair a b)

end TypeGraph.Charset
