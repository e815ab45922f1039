import TypeGraph.Number.Binary64

/-!
# The shortest decimal text of a number

A finite number is written with the fewest digits that read back as the same number, and of those
with the digits nearest to it.
-/

namespace TypeGraph

namespace Binary64

/-- The place of the decimal point: the `k` with `10 ^ (k - 1) ≤ num / den < 10 ^ k`. -/
def decimalPlace (num den : Nat) : Int :=
  let k : Int := (digitCount num : Int) - (digitCount den : Int)
  let below : Bool :=
    if 0 ≤ k then num < den * Nat.pow 10 k.toNat else num * Nat.pow 10 (-k).toNat < den
  if below then k else k + 1

/-- The two neighbours of `num / den` on the grid of multiples of `10 ^ e`, the nearer one first;
a tie puts the even one first. -/
def gridNeighbours (num den : Nat) (e : Int) : List Nat :=
  let (n, d) :=
    if 0 ≤ e then (num, den * Nat.pow 10 e.toNat) else (num * Nat.pow 10 (-e).toNat, den)
  let q := n / d
  let near := roundDiv n d
  if near = q then [q, q + 1] else [q + 1, q]

/-- The digits and the power of ten with the fewest digits that read back, tried for `count` and
more digits, at most `fuel` times. -/
def shortestFrom (m : Nat) (e : Int) (num den : Nat) (place : Int) :
    (fuel count : Nat) → Nat × Int
  | 0, _ => (num / den, 0)
  | fuel + 1, count =>
    let power := place - count
    let reads (d : Nat) : Bool := ofDecimal false d power = .finite false m e
    match (gridNeighbours num den power).find? reads with
    | some d => (d, power)
    | none => shortestFrom m e num den place fuel (count + 1)

/-- Moves the trailing zeros of the digits into the power of ten. -/
def dropZeros : (fuel digits : Nat) → (power : Int) → Nat × Int
  | 0, digits, power => (digits, power)
  | fuel + 1, digits, power =>
    if digits % 10 = 0 then dropZeros fuel (digits / 10) (power + 1) else (digits, power)

/-- The shortest digits of a positive finite number, with their power of ten. -/
def shortest (m : Nat) (e : Int) : Nat × Int :=
  let (num, den) := ratio m e
  let (digits, power) := shortestFrom m e num den (decimalPlace num den) 17 1
  dropZeros (digitCount digits - 1) digits power

end Binary64

/-- How numbers are laid out: positional for small powers of ten, with a mark otherwise. -/
structure NumberFormat where
  /-- The least place of the decimal point that is written positionally. -/
  leastPlace : Int
  /-- The greatest place of the decimal point that is written positionally. -/
  greatestPlace : Int
  /-- The least number of digits of an exponent. -/
  exponentDigits : Nat

/-- Numbers from a ten-thousandth up to sixteen digits before the point are positional; an exponent
has a sign and at least two digits. -/
def NumberFormat.standard : NumberFormat where
  leastPlace := -3
  greatestPlace := 16
  exponentDigits := 2

def padZeros (count : Nat) (s : String) : String :=
  String.ofList (List.replicate (count - s.length) '0') ++ s

def NumberFormat.write (f : NumberFormat) (digits : Nat) (power : Int) : String :=
  let text := toString digits
  let place : Int := text.length + power
  if f.leastPlace ≤ place ∧ place ≤ f.greatestPlace then
    if place ≤ 0 then "0." ++ padZeros (text.length + (-place).toNat) text
    else if 0 ≤ power then text ++ String.ofList (List.replicate power.toNat '0') ++ ".0"
    else
      String.ofList (text.toList.take place.toNat) ++ "." ++
        String.ofList (text.toList.drop place.toNat)
  else
    let mantissa :=
      match text.toList with
      | d :: d' :: rest => String.ofList (d :: '.' :: d' :: rest)
      | _ => text
    let exponent := place - 1
    mantissa ++ (if exponent < 0 then "e-" else "e+") ++
      padZeros f.exponentDigits (toString exponent.natAbs)

def Binary64.text : Binary64 → String
  | .nan => "nan"
  | .infinite negative => if negative then "-inf" else "inf"
  | .finite negative m e =>
    let magnitude :=
      if m = 0 then "0.0"
      else
        let (digits, power) := Binary64.shortest m e
        NumberFormat.standard.write digits power
    if negative then "-" ++ magnitude else magnitude

end TypeGraph
