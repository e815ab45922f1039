import TypeGraph.Charset.Unit

/-!
# Texts of seven bits

A plus sign opens a run of letters that stand for six bits each; the bits are units of two bytes.
Any other character ends the run, and a hyphen that ends it vanishes.  A plus sign and a hyphen
stand for a plus sign.
-/

namespace TypeGraph.Charset.SevenBit

open Utf8 (replacement)

def sixBits? (b : UInt8) : Option Nat :=
  let c := Char.ofNat b.toNat
  if c.isUpper then some (b.toNat - 0x41)
  else if c.isLower then some (b.toNat - 0x61 + 26)
  else if c.isDigit then some (b.toNat - 0x30 + 52)
  else if c = '+' then some 62
  else if c = '/' then some 63
  else none

/-- An open run: the number and the count of the bits that are no unit yet, and the first half of a
pair. -/
structure Run where
  bits : Nat := 0
  count : Nat := 0
  half : Option Nat := none

/-- Takes a unit, and gives the characters that it completes. -/
def Run.pushUnit (run : Run) (unit : Nat) : Run × List Char :=
  match run.half with
  | some first =>
    if isSecondHalf unit then ({ run with half := none }, [pairChar first unit])
    else if isFirstHalf unit then ({ run with half := some unit }, [replacement])
    else ({ run with half := none }, [replacement, codeChar unit])
  | none =>
    if isFirstHalf unit then ({ run with half := some unit }, []) else (run, [codeChar unit])

/-- Takes six bits, and gives the characters that they complete. -/
def Run.push (run : Run) (six : Nat) : Run × List Char :=
  let bits := run.bits * 64 + six
  let count := run.count + 6
  if count < 16 then ({ run with bits := bits, count := count }, [])
  else
    let scale := Nat.pow 2 (count - 16)
    { run with bits := bits % scale, count := count - 16 : Run }.pushUnit (bits / scale)

/-- Whether a run may end: fewer than six bits are left, all of them zero. -/
def Run.mayEnd (run : Run) : Bool := run.count < 6 && run.bits = 0

inductive Mode where
  /-- As itself. -/
  | plain
  /-- As the first one behind a plus sign. -/
  | opened
  /-- As a letter of a run. -/
  | inside (run : Run)

def Run.take (run : Run) (six : Nat) : Mode × List Char :=
  let (run, text) := run.push six
  (.inside run, text)

def takePlain (b : UInt8) : Mode × List Char :=
  if b = 0x2B then (.opened, [])
  else (.plain, [if b < 0x80 then Char.ofNat b.toNat else replacement])

/-- Takes a byte that ends a run; bits that are left spoil it. -/
def Run.close (run : Run) (b : UInt8) : Mode × List Char :=
  if !run.mayEnd || 0x80 ≤ b then (.plain, [replacement])
  else
    let half := if run.half.isSome then [replacement] else []
    (.plain, half ++ if b = 0x2D then [] else [Char.ofNat b.toNat])

/-- Takes a byte, and gives the characters that it completes. -/
def Mode.take (mode : Mode) (b : UInt8) : Mode × List Char :=
  match mode, sixBits? b with
  | .plain, _ => takePlain b
  | .opened, some six => Run.take {} six
  | .opened, none => (.plain, [if b = 0x2D then '+' else replacement])
  | .inside run, some six => run.take six
  | .inside run, none => run.close b

/-- What is written at the end of the text: bits that are left give the replacement character. -/
def Mode.rest : Mode → List Char
  | .inside run => if run.half.isSome || !run.mayEnd then [replacement] else []
  | _ => []

/-- Reads text from a mode on; `done` is what was read, last character first. -/
def readInto (done : List Char) (mode : Mode) : List UInt8 → List Char
  | [] => (mode.rest ++ done).reverse
  | b :: bytes =>
    let (mode, text) := mode.take b
    readInto (text.reverse ++ done) mode bytes

def decode (bytes : List UInt8) : List Char := readInto [] .plain bytes

end TypeGraph.Charset.SevenBit
