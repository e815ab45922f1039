/-!
# Punycode

A label with characters outside ASCII is written in ASCII: first its ASCII characters, then a hyphen
if there were any, then where each other character goes.  Characters go in by ascending code, and
what is written of each is its distance from the one before, as a number in base 36 whose digits
end at a threshold that adapts to the size of the distances.
-/

namespace TypeGraph.Host.Punycode

/-- The threshold of the digit at an index: a smaller digit ends its number. -/
def threshold (bias index : Nat) : Nat := min 26 (max 1 (36 * (index + 1) - bias))

theorem one_le_threshold (bias index : Nat) : 1 ≤ threshold bias index := by
  unfold threshold
  omega

/-- Divides a distance down to 455, and counts 36 for each division. -/
def reduce (delta divisions : Nat) : Nat × Nat :=
  if 455 < delta then reduce (delta / 35) (divisions + 36) else (delta, divisions)
termination_by delta
decreasing_by omega

/-- The bias after a distance; `count` characters are in place. -/
def adapt (delta count : Nat) (first : Bool) : Nat :=
  let delta := if first then delta / 700 else delta / 2
  let (delta, divisions) := reduce (delta + delta / count) 0
  divisions + 36 * delta / (delta + 38)

/-! ## Writing -/

def digitChar (d : Nat) : Char :=
  if d < 26 then Char.ofNat (0x61 + d) else Char.ofNat (0x30 + (d - 26))

def writeNumber (bias index n : Nat) : List Char :=
  let t := threshold bias index
  if n < t then [digitChar n]
  else digitChar (t + (n - t) % (36 - t)) :: writeNumber bias (index + 1) ((n - t) / (36 - t))
termination_by n
decreasing_by
  have h₁ := one_le_threshold bias index
  have h₂ := Nat.div_le_self (n - threshold bias index) (36 - threshold bias index)
  omega

structure Writer where
  text : List Char := []
  /-- The number of places passed since the last character was written. -/
  delta : Nat := 0
  bias : Nat := 72
  /-- The number of characters in place. -/
  count : Nat

/-- Passes one character of the label while characters of the code `code` are written. -/
def Writer.pass (basic code : Nat) (w : Writer) (n : Nat) : Writer :=
  if n < code then { w with delta := w.delta + 1 }
  else if n = code then
    { text := w.text ++ writeNumber w.bias 0 w.delta
      delta := 0
      bias := adapt w.delta (w.count + 1) (w.count = basic)
      count := w.count + 1 }
  else w

/-- Writes the characters of the given codes, in ascending order, from the code `from` on. -/
def writeCodes (label : List Nat) (basic : Nat) : (least : Nat) → List Nat → Writer → Writer
  | _, [], w => w
  | least, code :: rest, w =>
    let w := { w with delta := w.delta + (code - least) * (w.count + 1) }
    let w := label.foldl (Writer.pass basic code) w
    writeCodes label basic (code + 1) rest { w with delta := w.delta + 1 }

def encode (label : List Nat) : List Char :=
  let basic := label.filter (· < 0x80)
  let codes := ((label.filter (0x80 ≤ ·)).mergeSort fun a b => decide (a ≤ b)).eraseDups
  let w := writeCodes label basic.length 0x80 codes { count := basic.length }
  basic.map Char.ofNat ++ (if basic = [] then [] else ['-']) ++ w.text

/-! ## Reading -/

def digit? (c : Char) : Option Nat :=
  if c.isAlpha then some (c.toLower.toNat - 0x61)
  else if c.isDigit then some (c.toNat - 0x30 + 26)
  else none

/-- Reads a number from the given index on, with the weight of its next digit; gives the rest. -/
def readNumber (bias : Nat) : (index weight sum : Nat) → List Char → Option (Nat × List Char)
  | _, _, _, [] => none
  | index, weight, sum, c :: rest => do
    let d ← digit? c
    let t := threshold bias index
    let sum := sum + d * weight
    if d < t then some (sum, rest) else readNumber bias (index + 1) (weight * (36 - t)) sum rest

/-- Puts characters in, each behind the place of the one before; every round takes a character of
the text. -/
def readCodes : (fuel : Nat) → (place code bias : Nat) → (first : Bool) → (done : List Nat) →
    List Char → Option (List Nat)
  | 0, _, _, _, _, done, _ => some done
  | fuel + 1, place, code, bias, first, done, text =>
    if text = [] then some done
    else do
      let (delta, rest) ← readNumber bias 0 1 0 text
      let size := done.length + 1
      let code := code + (place + delta) / size
      let place := (place + delta) % size
      if 0x10FFFF < code then none
      else
        readCodes fuel (place + 1) code (adapt delta size first) false
          (done.take place ++ code :: done.drop place) rest

/-- The label of a text.  A hyphen behind no ASCII characters is a mistake. -/
def decode (text : List Char) : Option (List Nat) :=
  let basic := ((text.reverse.dropWhile (· ≠ '-')).drop 1).reverse
  let extended := (text.reverse.takeWhile (· ≠ '-')).reverse
  if basic = [] ∧ text.contains '-' then none
  else readCodes (extended.length + 1) 0 0x80 72 true (basic.map Char.toNat) extended

end TypeGraph.Host.Punycode
