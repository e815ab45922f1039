import TypeGraph.Charset.Korean.Hangul
import TypeGraph.Charset.Stream

/-!
# Korean character sets

The common syllables have cells of their own.  All others are written as their letters, by a code
that is made of their letters, or in the order of their codes in what the common ones leave free.
-/

namespace TypeGraph.Charset

/-- The syllable of an initial, a vowel and a final, or none of the last. -/
def syllable (initial vowel final : Nat) : Char :=
  Char.ofNat (0xAC00 + (initial * 21 + vowel) * 28 + final)

/-! ## Syllables in letters -/

/-- The letters from 0xA1 to 0xBE as initials; none for those that only end a syllable. -/
def initials : List (Option Nat) :=
  [some 0, some 1, none, some 2, none, none, some 3, some 4, some 5, none, none, none, none, none,
    none, none, some 6, some 7, some 8, none, some 9, some 10, some 11, some 12, some 13, some 14,
    some 15, some 16, some 17, some 18]

/-- The letters from 0xA1 to 0xBE as finals; none for those that only start a syllable. -/
def finals : List (Option Nat) :=
  [some 1, some 2, some 3, some 4, some 5, some 6, some 7, none, some 8, some 9, some 10, some 11,
    some 12, some 13, some 14, some 15, some 16, some 17, none, some 18, some 19, some 20, some 21,
    some 22, none, some 23, some 24, some 25, some 26, some 27]

def letterMark : UInt8 := 0xA4

/-- The byte of a letter that is missing. -/
def fillerByte : UInt8 := 0xD4

/-- What a table from the byte 0xA1 on has for a byte. -/
def letter? (table : List (Option Nat)) (b : UInt8) : Option Nat :=
  if 0xA1 ≤ b then (table[b.toNat - 0xA1]?).join else none

/-- The syllable of three letters. -/
def spelled? (initial vowel final : UInt8) : Option Char := do
  let i ← letter? initials initial
  let v ← if 0xBF ≤ vowel ∧ vowel ≤ 0xD3 then some (vowel.toNat - 0xBF) else none
  let f ← if final = fillerByte then some 0 else letter? finals final
  return syllable i v f

def koreanPair? (a b : UInt8) : Option (List Char) :=
  ((highCell? a b).bind hangul.get?).map ([·])

/-- Reads the common characters in two high bytes, and syllables in letters behind a filler. -/
def koreanStep (bytes : List UInt8) : Step Unit :=
  match bytes with
  | [] => .unfinished
  | [a] => if a < 0x80 then single (asciiChar a) else .unfinished
  | a :: b :: rest =>
    if a < 0x80 then single (asciiChar a)
    else if a = letterMark ∧ b = fillerByte then
      match rest with
      | m₁ :: initial :: m₂ :: vowel :: m₃ :: final :: _ =>
        if m₁ = letterMark ∧ m₂ = letterMark ∧ m₃ = letterMark then
          found 8 ((spelled? initial vowel final).map ([·]))
        else .wrong 1
      | _ => .unfinished
    else found 2 (koreanPair? a b)

/-! ## The syllables that are not common -/

def rareSyllables : Array Nat := missingFrom hangul 0xAC00 11172

/-- Which of the second bytes below 0xA1 a byte is: capital letters, small letters and 32 more. -/
def lowTrail? (b : UInt8) : Option Nat :=
  if 0x41 ≤ b ∧ b ≤ 0x5A then some (b.toNat - 0x41)
  else if 0x61 ≤ b ∧ b ≤ 0x7A then some (b.toNat - 0x61 + 26)
  else if 0x81 ≤ b ∧ b ≤ 0xA0 then some (b.toNat - 0x81 + 52)
  else none

/-- The place of a pair among those that the common characters leave free: 32 rows of 178, then rows
of 84. -/
def freePlace? (a b : UInt8) : Option Nat :=
  if 0x81 ≤ a ∧ a ≤ 0xA0 then
    let column := if 0xA1 ≤ b ∧ b ≤ 0xFE then some (b.toNat - 0x81 + 52) else lowTrail? b
    column.map fun column => (a.toNat - 0x81) * 178 + column
  else if 0xA1 ≤ a ∧ a ≤ 0xC6 then
    (lowTrail? b).map fun column => 32 * 178 + (a.toNat - 0xA1) * 84 + column
  else none

def unifiedKoreanStep : List UInt8 → Step Unit :=
  pairStep fun a b =>
    (koreanPair? a b).or
      (((freePlace? a b).bind (rareSyllables[·]?)).map fun n => [Char.ofNat n])

/-! ## Syllables by their letters -/

inductive Jamo where
  | missing
  | filler
  /-- A letter with its number, and the code of the letter alone, from 0x3100 on. -/
  | letter (number alone : Nat)
deriving DecidableEq, Repr

/-- The letters of a table: the number of each with its code, or zero for a hole. -/
def jamo (table : List Nat) (first : Nat) (bits : Nat) : Jamo :=
  match table[bits]? with
  | none | some 0 => .missing
  | some 1 => .filler
  | some code => .letter (first + ((table.take bits).filter (1 < ·)).length) code

def initialBits : List Nat :=
  [0, 1, 0x31, 0x32, 0x34, 0x37, 0x38, 0x39, 0x41, 0x42, 0x43, 0x45, 0x46, 0x47, 0x48, 0x49, 0x4A,
    0x4B, 0x4C, 0x4D, 0x4E]

def vowelBits : List Nat :=
  [0, 0, 1, 0x4F, 0x50, 0x51, 0x52, 0x53, 0, 0, 0x54, 0x55, 0x56, 0x57, 0x58, 0x59, 0, 0, 0x5A,
    0x5B, 0x5C, 0x5D, 0x5E, 0x5F, 0, 0, 0x60, 0x61, 0x62, 0x63]

def finalBits : List Nat :=
  [0, 1, 0x31, 0x32, 0x33, 0x34, 0x35, 0x36, 0x37, 0x39, 0x3A, 0x3B, 0x3C, 0x3D, 0x3E, 0x3F, 0x40,
    0x41, 0, 0x42, 0x44, 0x45, 0x46, 0x47, 0x48, 0x4A, 0x4B, 0x4C, 0x4D, 0x4E]

def combined? (initial vowel final : Jamo) : Option Char :=
  match initial, vowel, final with
  | .filler, .filler, .filler => some (Char.ofNat 0x3000)
  | .filler, .filler, .letter _ alone => some (Char.ofNat (0x3100 + alone))
  | .filler, .letter _ alone, .filler => some (Char.ofNat (0x3100 + alone))
  | .letter _ alone, .filler, .filler => some (Char.ofNat (0x3100 + alone))
  | .letter i _, .letter v _, .filler => some (syllable i v 0)
  | .letter i _, .letter v _, .letter f _ => some (syllable i v f)
  | _, _, _ => none

def symbolCell? (a b : UInt8) : Option Nat :=
  if a < 0xD9 ∨ a = 0xDF ∨ 0xF9 < a ∨ b < 0x31 ∨ (0x80 ≤ b ∧ b < 0x91) ∨ b = 0x7F ∨ b = 0xFF ∨
      (a = 0xDA ∧ 0xA1 ≤ b ∧ b ≤ 0xD3) then none
  else
    let row := if a < 0xE0 then 2 * (a.toNat - 0xD9) else 2 * a.toNat - 0x197
    let column := if b < 0x91 then b.toNat - 0x31 else b.toNat - 0x43
    some (if column < side then row * side + column else (row + 1) * side + (column - side))

def combiningKoreanStep : List UInt8 → Step Unit :=
  pairStep fun a b =>
    if a < 0xD8 then
      let bits := (a.toNat % 128) * 256 + b.toNat
      (combined? (jamo initialBits 0 (bits / 1024)) (jamo vowelBits 0 (bits / 32 % 32))
        (jamo finalBits 1 (bits % 32))).map ([·])
    else ((symbolCell? a b).bind hangul.get?).map ([·])

end TypeGraph.Charset
