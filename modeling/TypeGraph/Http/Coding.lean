import TypeGraph.Http.Inflate
import TypeGraph.Text.Blank
import TypeGraph.Text.Case

/-!
# Codings of a body

The body of an answer may be compressed, in one of two containers or in none.  A container has a
header in front of the blocks and a check behind them.
-/

namespace TypeGraph

namespace Inflate

/-! ## Checks -/

/-- The check of the first container: two sums modulo 65521. -/
def sumCheck (bytes : Array UInt8) : Nat :=
  let (a, b) := bytes.foldl (fun (a, b) byte =>
    let a := (a + byte.toNat) % 65521
    (a, (b + a) % 65521)) (1, 0)
  b * 65536 + a

def remainderStep (r : UInt32) : UInt32 :=
  if r &&& 1 = 1 then (r >>> 1) ^^^ 0xEDB88320 else r >>> 1

/-- The check of the second container: the remainder of the bytes taken as a polynomial. -/
def remainderCheck (bytes : Array UInt8) : Nat :=
  let r := bytes.foldl (fun (r : UInt32) byte =>
    (List.range 8).foldl (fun r _ => remainderStep r) (r ^^^ byte.toUInt32)) 0xFFFFFFFF
  (r ^^^ 0xFFFFFFFF).toNat

/-- The number of four bytes in the other order. -/
def turned (n : Nat) : Nat :=
  n % 256 * 16777216 + n / 256 % 256 * 65536 + n / 65536 % 256 * 256 + n / 16777216 % 256

/-- Reads all blocks; each takes a bit at least. -/
def allBlocks : Reading Unit := do blocks (← get).bits.length

/-! ## Containers -/

/-- Reads blocks with a header of two bytes and a sum behind. -/
def summed : Reading Unit := do
  let low ← number 8
  let high ← number 8
  if (low * 256 + high) % 31 ≠ 0 then fail .header
  if low % 16 ≠ 8 then fail .method
  if 7 < low / 16 then fail .window
  if high / 32 % 2 = 1 then
    let _ ← number 32
    fail .dictionary
  allBlocks
  align
  if turned (← number 32) ≠ sumCheck (← get).out then fail .dataCheck

def skip : Nat → Reading Unit
  | 0 => return
  | n + 1 => do
    let _ ← number 8
    skip n

def skipText : Nat → Reading Unit
  | 0 => throw .ended
  | fuel + 1 => do
    if (← number 8) = 0 then return
    skipText fuel

/-- The bytes of bits, the lowest first; bits beyond the last whole byte do not count. -/
def bytesOfBits : List Bool → List UInt8
  | a :: b :: c :: d :: e :: f :: g :: h :: rest =>
    let n := [a, b, c, d, e, f, g, h].foldr (fun (x : Bool) (n : Nat) => x.toNat + 2 * n) 0
    n.toUInt8 :: bytesOfBits rest
  | _ => []

/-- Reads blocks with a header that may hold names, and the remainder and the length behind. -/
def named : Reading Unit := do
  let all := (← get).bits
  if (← number 16) ≠ 0x8B1F then fail .header
  let method ← number 8
  let flags ← number 8
  if method ≠ 8 then fail .method
  if 32 ≤ flags then fail .flags
  skip 6
  let left := (← get).bits.length
  if flags.testBit 2 then skip (← number 16)
  if flags.testBit 3 then skipText left
  if flags.testBit 4 then skipText left
  if flags.testBit 1 then
    let read := all.take (all.length - (← get).bits.length)
    if (← number 16) ≠ remainderCheck (bytesOfBits read).toArray % 65536 then fail .headerCheck
  allBlocks
  align
  if (← number 32) ≠ remainderCheck (← get).out then fail .dataCheck
  if (← number 32) ≠ (← get).out.size % 4294967296 then fail .lengthCheck

end Inflate

inductive Coding where
  /-- As it is. -/
  | plain
  /-- Blocks with a sum; blocks without any container are taken too. -/
  | deflate
  /-- Blocks in the container that may hold names. -/
  | gzip
deriving DecidableEq, Repr

namespace Coding

def ofName? (name : String) : Option Coding :=
  match Text.lowerCase (Text.strip name) with
  | "identity" => some .plain
  | "deflate" => some .deflate
  | "gzip" => some .gzip
  | _ => none

/-- The codings in a list of names; unknown names do not count. -/
def ofNames (names : String) : List Coding := (names.splitOn ",").filterMap ofName?

def decode (bytes : List UInt8) : Coding → Except Inflate.Problem (List UInt8)
  | .plain => .ok bytes
  | .gzip => Inflate.run Inflate.named bytes
  | .deflate =>
    match Inflate.run Inflate.summed bytes with
    | .ok decoded => .ok decoded
    | .error _ => Inflate.run Inflate.allBlocks bytes

/-- The bytes before all codings, which were applied from the first to the last. -/
def decodeAll (codings : List Coding) (bytes : List UInt8) : Except Inflate.Problem (List UInt8) :=
  codings.reverse.foldlM decode bytes

end Coding

end TypeGraph
