/-!
# Base 64

Three bytes are written as four characters of six bits each; one or two bytes left over are padded
with zero bits to whole characters and with `=` to a group of four.  The URL-safe alphabet ends in
`-` and `_`, the standard one in `+` and `/`.
-/

namespace TypeGraph.Base64

/-- The two last characters of an alphabet; the 62 before them are letters and digits. -/
structure Alphabet where
  plus : Char
  slash : Char

def urlSafe : Alphabet := ⟨'-', '_'⟩

def standard : Alphabet := ⟨'+', '/'⟩

def Alphabet.char (a : Alphabet) (n : Nat) : Char :=
  if n < 26 then Char.ofNat (0x41 + n)
  else if n < 52 then Char.ofNat (0x61 + (n - 26))
  else if n < 62 then Char.ofNat (0x30 + (n - 52))
  else if n = 62 then a.plus
  else a.slash

def Alphabet.value? (a : Alphabet) (c : Char) : Option Nat :=
  if 'A' ≤ c ∧ c ≤ 'Z' then some (c.toNat - 0x41)
  else if 'a' ≤ c ∧ c ≤ 'z' then some (c.toNat - 0x61 + 26)
  else if '0' ≤ c ∧ c ≤ '9' then some (c.toNat - 0x30 + 52)
  else if c = a.plus then some 62
  else if c = a.slash then some 63
  else none

def Alphabet.encode (a : Alphabet) : List UInt8 → List Char
  | [] => []
  | [x] => [a.char (x.toNat / 4), a.char (x.toNat % 4 * 16), '=', '=']
  | [x, y] =>
    [a.char (x.toNat / 4), a.char (x.toNat % 4 * 16 + y.toNat / 16), a.char (y.toNat % 16 * 4), '=']
  | x :: y :: z :: rest =>
    a.char (x.toNat / 4) :: a.char (x.toNat % 4 * 16 + y.toNat / 16) ::
      a.char (y.toNat % 16 * 4 + z.toNat / 64) :: a.char (z.toNat % 64) :: a.encode rest

/-- The bytes of a text, read by whole groups of four; padding ends the text. -/
def Alphabet.decode (a : Alphabet) : List Char → Option (List UInt8)
  | [] => some []
  | [p, q, '=', '='] => do
    let p ← a.value? p
    let q ← a.value? q
    return [(p * 4 + q / 16).toUInt8]
  | [p, q, r, '='] => do
    let p ← a.value? p
    let q ← a.value? q
    let r ← a.value? r
    return [(p * 4 + q / 16).toUInt8, (q % 16 * 16 + r / 4).toUInt8]
  | p :: q :: r :: s :: rest => do
    let p ← a.value? p
    let q ← a.value? q
    let r ← a.value? r
    let s ← a.value? s
    let bytes ← a.decode rest
    return (p * 4 + q / 16).toUInt8 :: (q % 16 * 16 + r / 4).toUInt8 ::
      (r % 4 * 64 + s).toUInt8 :: bytes
  | _ => none

/-- How far lenient reading has got within a group of four characters. -/
structure Group where
  /-- The number of characters read. -/
  size : Nat := 0
  /-- The bits that make no byte yet. -/
  bits : Nat := 0
  /-- The number of padding marks since the last character. -/
  padding : Nat := 0

/-- The bytes of a text, read leniently: characters outside the alphabet do not count, nor do
padding marks where no group can end.  Padding that completes a group ends the text. -/
def Alphabet.decodeLoosely (a : Alphabet) (g : Group) : List Char → Option (List UInt8)
  | [] => if g.size = 0 then some [] else none
  | c :: rest =>
    if c = '=' then
      if g.size < 2 then a.decodeLoosely g rest
      else if 4 ≤ g.size + g.padding + 1 then some []
      else a.decodeLoosely { g with padding := g.padding + 1 } rest
    else
      match a.value? c with
      | none => a.decodeLoosely g rest
      | some v =>
        match g.size with
        | 0 => a.decodeLoosely ⟨1, v, 0⟩ rest
        | 1 => (a.decodeLoosely ⟨2, v % 16, 0⟩ rest).map ((g.bits * 4 + v / 16).toUInt8 :: ·)
        | 2 => (a.decodeLoosely ⟨3, v % 4, 0⟩ rest).map ((g.bits * 16 + v / 4).toUInt8 :: ·)
        | _ => (a.decodeLoosely ⟨0, 0, 0⟩ rest).map ((g.bits * 64 + v).toUInt8 :: ·)

end TypeGraph.Base64
