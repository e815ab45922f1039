/-!
# UTF-8

Texts as bytes and back.  Strict reading refuses any text that is not UTF-8.  Lenient reading puts
the replacement character for each longest piece of a sequence that could have started a character.
-/

namespace TypeGraph.Utf8

def encode (s : String) : List UInt8 := s.toUTF8.toList

def decode? (bytes : List UInt8) : Option String := String.fromUTF8? ⟨bytes.toArray⟩

/-- The character that stands for what cannot be read. -/
def replacement : Char := Char.ofNat 0xFFFD

def isTail (b : UInt8) : Bool := 0x80 ≤ b && b ≤ 0xBF

/-- Whether `b` may follow the first byte of a sequence of three or four: longer forms than needed,
surrogates and numbers beyond the last code point are ruled out here. -/
def isSecond (first b : UInt8) : Bool :=
  isTail b && !(first = 0xE0 && b < 0xA0) && !(first = 0xED && 0x9F < b) &&
    !(first = 0xF0 && b < 0x90) && !(first = 0xF4 && 0x8F < b)

def tailBits (b : UInt8) : Nat := b.toNat % 64

/-- Reads bytes as text; `done` is what was read, last character first. -/
def decodeInto (done : List Char) : List UInt8 → List Char
  | [] => done.reverse
  | a :: rest =>
    if a < 0x80 then decodeInto (Char.ofNat a.toNat :: done) rest
    else if a < 0xC2 ∨ 0xF4 < a then decodeInto (replacement :: done) rest
    else
      match rest with
      | [] => (replacement :: done).reverse
      | b :: rest₂ =>
        if !isSecond a b then decodeInto (replacement :: done) (b :: rest₂)
        else if a < 0xE0 then
          decodeInto (Char.ofNat (a.toNat % 32 * 64 + tailBits b) :: done) rest₂
        else
          match rest₂ with
          | [] => (replacement :: done).reverse
          | c :: rest₃ =>
            if !isTail c then decodeInto (replacement :: done) (c :: rest₃)
            else if a < 0xF0 then
              decodeInto (Char.ofNat ((a.toNat % 16 * 64 + tailBits b) * 64 + tailBits c) :: done)
                rest₃
            else
              match rest₃ with
              | [] => (replacement :: done).reverse
              | d :: rest₄ =>
                if !isTail d then decodeInto (replacement :: done) (d :: rest₄)
                else
                  decodeInto
                    (Char.ofNat (((a.toNat % 8 * 64 + tailBits b) * 64 + tailBits c) * 64 +
                      tailBits d) :: done) rest₄
termination_by bytes => bytes.length

/-- The text of bytes, with replacements where they are not UTF-8. -/
def decodeLossy (bytes : List UInt8) : String := String.ofList (decodeInto [] bytes)

end TypeGraph.Utf8
