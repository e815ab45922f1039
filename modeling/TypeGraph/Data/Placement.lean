import TypeGraph.Data.Value

/-!
# The order of a set of numbers

A set lists its numbers as they lie in a table whose size is a power of two.  The remainder of a
number by a fixed prime says where its search for a place begins; a number whose place is taken
looks at the places behind it, and then jumps.  So small numbers stand in ascending order.  A set
that holds anything else keeps the order in which it was written.
-/

namespace TypeGraph.Placement

/-- The prime by which numbers are taken; the sixty-first power of two leaves one. -/
def modulus : Nat := 0x1FFFFFFFFFFFFFFF

/-- A remainder with a sign, as a number of 64 bits.  Minus one is set apart and counts as minus
two. -/
def signed (negative : Bool) (n : Nat) : Nat :=
  if !negative ∨ n = 0 then n
  else 0x10000000000000000 - (if n = 1 then 2 else n)

/-- The code of a number: its remainder, where a fraction of a power of two is read as the power
that undoes it.  What is empty counts as zero. -/
def code? : Value → Option Nat
  | .bool b => some (if b then 1 else 0)
  | .text "" | .bytes [] => some 0
  | .int n => some (signed (n < 0) (n.natAbs % modulus))
  | .real (.finite negative m e) =>
    some (signed negative (m % modulus * Nat.pow 2 (e % 61).toNat % modulus))
  | .real (.infinite negative) => some (signed negative 314159)
  | _ => none

def size (count : Nat) : Nat :=
  if count ≤ 4 then 8 else Nat.pow 2 (Nat.log2 (2 * count) + 1)

/-- The number of places behind the first that are looked at before a jump. -/
def reach : Nat := 9

/-- The first free place from `place` on, or one further on, where `code` drives the jumps.  Once
the code is used up the jumps come by every place, so that the table's size and a few more are fuel
enough. -/
def freePlace (table : Array (Option Value)) : (fuel place code : Nat) → Nat
  | 0, place, _ => place
  | fuel + 1, place, code =>
    let last := if place + reach < table.size then place + reach else place
    match (List.range' place (last + 1 - place)).find? fun i => table[i]?.any Option.isNone with
    | some i => i
    | none => freePlace table fuel ((5 * place + 1 + code / 32) % table.size) (code / 32)

def insert (table : Array (Option Value)) (item : Nat × Value) : Array (Option Value) :=
  let place := freePlace table (table.size + 16) (item.1 % table.size) item.1
  table.setIfInBounds place (some item.2)

def arrange (items : List Value) : List Value :=
  match items.mapM fun v => (code? v).map (·, v) with
  | none => items
  | some coded =>
    let table := coded.foldl insert (Array.replicate (size items.length) none)
    table.toList.filterMap id

end TypeGraph.Placement
