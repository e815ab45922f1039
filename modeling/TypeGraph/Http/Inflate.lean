/-!
# Compressed data

Compressed data is a sequence of bits in blocks.  A block holds plain bytes, or letters of two
alphabets: one for bytes and for lengths of earlier text, one for the distances to that text.  Each
letter has a code word, and a set of code words is known by the lengths of its words.

Data that stops early gives the bytes read so far.
-/

namespace TypeGraph.Inflate

inductive Problem where
  | header
  | method
  | window
  | flags
  | headerCheck
  | dictionary
  | blockType
  | storedLengths
  | tooManySymbols
  | codeLengths
  | lengthRepeat
  | missingEnd
  | literalLengths
  | distanceLengths
  | literalCode
  | distanceCode
  | tooFarBack
  | dataCheck
  | lengthCheck
deriving DecidableEq, Repr

def Problem.message : Problem → String
  | .header => "Error -3 while decompressing data: incorrect header check"
  | .method => "Error -3 while decompressing data: unknown compression method"
  | .window => "Error -3 while decompressing data: invalid window size"
  | .flags => "Error -3 while decompressing data: unknown header flags set"
  | .headerCheck => "Error -3 while decompressing data: header crc mismatch"
  | .dictionary => "Error 2 while decompressing data"
  | .blockType => "Error -3 while decompressing data: invalid block type"
  | .storedLengths => "Error -3 while decompressing data: invalid stored block lengths"
  | .tooManySymbols => "Error -3 while decompressing data: too many length or distance symbols"
  | .codeLengths => "Error -3 while decompressing data: invalid code lengths set"
  | .lengthRepeat => "Error -3 while decompressing data: invalid bit length repeat"
  | .missingEnd => "Error -3 while decompressing data: invalid code -- missing end-of-block"
  | .literalLengths => "Error -3 while decompressing data: invalid literal/lengths set"
  | .distanceLengths => "Error -3 while decompressing data: invalid distances set"
  | .literalCode => "Error -3 while decompressing data: invalid literal/length code"
  | .distanceCode => "Error -3 while decompressing data: invalid distance code"
  | .tooFarBack => "Error -3 while decompressing data: invalid distance too far back"
  | .dataCheck => "Error -3 while decompressing data: incorrect data check"
  | .lengthCheck => "Error -3 while decompressing data: incorrect length check"

structure Stream where
  bits : List Bool
  out : Array UInt8 := #[]

inductive Halt where
  /-- The data stops. -/
  | ended
  /-- The data is wrong. -/
  | broken (problem : Problem)
deriving DecidableEq, Repr

abbrev Reading := ExceptT Halt (StateM Stream)

def bitsOfByte (b : UInt8) : List Bool := (List.range 8).map b.toNat.testBit

def bitsOf (bytes : List UInt8) : List Bool := bytes.flatMap bitsOfByte

def fail {α : Type} (problem : Problem) : Reading α := throw (.broken problem)

def bit : Reading Bool := do
  match (← get).bits with
  | [] => throw .ended
  | b :: rest =>
    modify ({ · with bits := rest })
    return b

def number : Nat → Reading Nat
  | 0 => return 0
  | n + 1 => do
    let low ← bit
    let high ← number n
    return low.toNat + 2 * high

def align : Reading Unit := modify fun s => { s with bits := s.bits.drop (s.bits.length % 8) }

def write (b : UInt8) : Reading Unit := modify fun s => { s with out := s.out.push b }

/-! ## Code words -/

/-- A set of code words: how many there are of each length from one on, up to the longest, and the
letters in the order of their words. -/
structure Code where
  counts : List Nat
  letters : Array Nat
deriving DecidableEq, Repr

def maxLength : Nat := 15

/-- The set of words in which letter `i` has a word of length `lengths[i]`, none at zero. -/
def Code.ofLengths (lengths : List Nat) : Code :=
  let count (n : Nat) : Nat := lengths.countP (· = n)
  let counts := (List.range maxLength).map fun i => count (i + 1)
  let letters := (List.range maxLength).flatMap fun i =>
    (lengths.zipIdx.filter (·.1 = i + 1)).map (·.2)
  ⟨(counts.reverse.dropWhile (· = 0)).reverse, letters.toArray⟩

/-- How many words of the last length are still free, none if there are too many words. -/
def freeWords (counts : List Nat) : Option Nat :=
  counts.foldl (fun free count => free.bind fun n =>
    if count ≤ 2 * n then some (2 * n - count) else none) (some 1)

/-- Whether the words can be told apart and leave no gap. -/
def Code.isComplete (c : Code) : Bool := freeWords c.counts = some 0

/-- Whether a code may be used for letters: it has no gap, or no word, or a single one of length
one. -/
def Code.isUsable (c : Code) : Bool := c.isComplete || c.counts = [] || c.counts = [1]

/-- Looks for the word that goes on with the next bits: `word` is what was read, `first` the first
word of this length, `index` the number of shorter words. -/
def findWord (letters : Array Nat) : List Nat → Nat → Nat → Nat → Reading (Option Nat)
  | [], _, _, _ => return none
  | count :: longer, word, first, index => do
    let word := 2 * word + (← bit).toNat
    if word < first + count then return letters[index + (word - first)]?
    else findWord letters longer word (2 * (first + count)) (index + count)

/-- Reads a letter; none if no word fits. -/
def Code.letter (c : Code) : Reading (Option Nat) :=
  findWord c.letters (if c.counts = [] then [0] else c.counts) 0 0 0

/-! ## Lengths and distances -/

/-- The first letter of the first alphabet that is a length; the one before it ends a block. -/
def endOfBlock : Nat := 256

/-- The least length of a letter and how many bits are added to it. -/
def lengthOf? (letter : Nat) : Option (Nat × Nat) :=
  let k := letter - (endOfBlock + 1)
  if letter ≤ endOfBlock then none
  else if k < 8 then some (k + 3, 0)
  else if k < 28 then
    let extra := k / 4 - 1
    some (((4 + k % 4) <<< extra) + 3, extra)
  else if k = 28 then some (258, 0)
  else none

/-- The least distance of a letter and how many bits are added to it. -/
def distanceOf? (letter : Nat) : Option (Nat × Nat) :=
  if letter < 4 then some (letter + 1, 0)
  else if letter < 30 then
    let extra := letter / 2 - 1
    some (((2 + letter % 2) <<< extra) + 1, extra)
  else none

/-- Writes bytes from `distance` back again, one after another. -/
def copyBack (distance : Nat) : Nat → Reading Unit
  | 0 => return
  | n + 1 => do
    let out := (← get).out
    write (out[out.size - distance]?.getD 0)
    copyBack distance n

/-- Reads the letters of a block up to its end, at most `fuel` of them. -/
def letters (literals distances : Code) : Nat → Reading Unit
  | 0 => throw .ended
  | fuel + 1 => do
    match ← literals.letter with
    | none => fail .literalCode
    | some letter =>
      if letter < endOfBlock then
        write letter.toUInt8
        letters literals distances fuel
      else if letter = endOfBlock then return
      else
        match lengthOf? letter with
        | none => fail .literalCode
        | some (length, extra) =>
          let length := length + (← number extra)
          match (← distances.letter).bind distanceOf? with
          | none => fail .distanceCode
          | some (distance, extra) =>
            let distance := distance + (← number extra)
            if (← get).out.size < distance then fail .tooFarBack
            copyBack distance length
            letters literals distances fuel

/-! ## Blocks -/

def copyPlain : Nat → Reading Unit
  | 0 => return
  | n + 1 => do
    write (← number 8).toUInt8
    copyPlain n

/-- Reads a block of plain bytes: their number, the same with all bits turned, and the bytes. -/
def plainBlock : Reading Unit := do
  align
  let length ← number 16
  let turned ← number 16
  if length + turned ≠ 65535 then fail .storedLengths
  copyPlain length

def fixedLiterals : Code :=
  .ofLengths (List.replicate 144 8 ++ List.replicate 112 9 ++ List.replicate 24 7 ++
    List.replicate 8 8)

def fixedDistances : Code := .ofLengths (List.replicate 32 5)

def lengthOrder : List Nat :=
  [16, 17, 18, 0, 8, 7, 9, 6, 10, 5, 11, 4, 12, 3, 13, 2, 14, 1, 15]

def smallLengths : Nat → Reading (List Nat)
  | 0 => return []
  | n + 1 => do
    let length ← number 3
    return length :: (← smallLengths n)

/-- What a letter of the code for lengths adds: a length, the last length again, or zeros. -/
def addedLengths (done : List Nat) (letter : Nat) : Reading (List Nat) := do
  if letter < 16 then return [letter]
  else if letter = 16 then
    let more ← number 2
    match done with
    | [] => fail .lengthRepeat
    | last :: _ => return List.replicate (3 + more) last
  else if letter = 17 then return List.replicate (3 + (← number 3)) 0
  else return List.replicate (11 + (← number 7)) 0

/-- Reads `wanted` lengths; `done` are those read, the last one first.  A letter that is no word of
an empty code counts as zero. -/
def codedLengths (code : Code) (wanted : Nat) : Nat → List Nat → Reading (List Nat)
  | 0, done => return done.reverse
  | fuel + 1, done => do
    if wanted ≤ done.length then return done.reverse
    let added ← addedLengths done ((← code.letter).getD 0)
    if wanted < done.length + added.length then fail .lengthRepeat
    codedLengths code wanted fuel (added ++ done)

def codes : Reading (Code × Code) := do
  let literalCount := (← number 5) + 257
  let distanceCount := (← number 5) + 1
  let lengthCount := (← number 4) + 4
  if 286 < literalCount ∨ 30 < distanceCount then fail .tooManySymbols
  let given := lengthOrder.zip (← smallLengths lengthCount)
  let code := Code.ofLengths ((List.range 19).map fun i => (given.lookup i).getD 0)
  if !(code.isComplete || code.counts = []) then fail .codeLengths
  let wanted := literalCount + distanceCount
  let lengths ← codedLengths code wanted (wanted + 1) []
  let literals := Code.ofLengths (lengths.take literalCount)
  let distances := Code.ofLengths (lengths.drop literalCount)
  if lengths[endOfBlock]? = some 0 then fail .missingEnd
  if !literals.isUsable then fail .literalLengths
  if !distances.isUsable then fail .distanceLengths
  return (literals, distances)

def block : Reading Bool := do
  let isLast ← bit
  let fuel := (← get).bits.length
  match ← number 2 with
  | 0 => plainBlock
  | 1 => letters fixedLiterals fixedDistances fuel
  | 2 =>
    let (literals, distances) ← codes
    letters literals distances fuel
  | _ => fail .blockType
  return isLast

def blocks : Nat → Reading Unit
  | 0 => throw .ended
  | fuel + 1 => do
    if ← block then return
    blocks fuel

def run (reading : Reading Unit) (bytes : List UInt8) : Except Problem (List UInt8) :=
  match reading.run { bits := bitsOf bytes } with
  | (.error (.broken problem), _) => .error problem
  | (_, stream) => .ok stream.out.toList

end TypeGraph.Inflate
