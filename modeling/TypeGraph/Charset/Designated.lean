import TypeGraph.Charset.Chinese
import TypeGraph.Charset.Japanese
import TypeGraph.Charset.Korean

/-!
# Character sets in turn

Texts of seven bits in which escapes say which characters the bytes behind them stand for.  An
escape puts a set of characters into one of three places.  Bytes are read in the set of the first
place, or of the second between two shifts; a single character may be taken from the third.
-/

namespace TypeGraph.Charset

inductive Alphabet where
  | ascii
  | roman
  | katakana
  | kanji
  | oldKanji
  | supplement
  | extended (edition : JapaneseEdition)
  | second
  | hangul
  | simplified
  /-- The accented letters of the West, one by one. -/
  | western
  /-- Greek letters, one by one. -/
  | greek
deriving DecidableEq, Repr

structure Scheme where
  /-- The sets by the last byte of an escape, and whether they take two bytes. -/
  alphabets : List (UInt8 × Bool × Alphabet)
  /-- Whether shifts change the place. -/
  hasShifts : Bool := false
  /-- Whether an escape may stand in front of another one to announce a revision. -/
  hasRevisions : Bool := true
  /-- Whether there is a third place. -/
  hasThird : Bool := false
deriving DecidableEq, Repr

structure Places where
  first : Alphabet := .ascii
  second : Alphabet := .ascii
  third : Alphabet := .ascii
  isShifted : Bool := false
  /-- Whether bytes are taken as they are up to the end of an escape that is not known. -/
  isPassing : Bool := false

def escape : UInt8 := 0x1B

def endsEscape (b : UInt8) : Bool := (0x41 ≤ b && b ≤ 0x5A) || b = 0x40

/-- Whether a byte behind the escape byte starts an escape that names a set. -/
def startsName (b : UInt8) : Bool := [0x28, 0x29, 0x24, 0x2E, 0x26].contains b

def maxEscape : Nat := 16

inductive EscapeLength where
  | known (length : Nat)
  | unending
  | unfinished

/-- The length of an escape from its byte `i` on.  A revision is announced by two bytes behind the
escape byte, and the escape goes on behind the next one. -/
def escapeLength (hasRevisions : Bool) : (fuel i : Nat) → List UInt8 → EscapeLength
  | 0, _, _ => .unending
  | fuel + 1, i, bytes =>
    if maxEscape ≤ i then .unending
    else
      match bytes[i]? with
      | none => .unfinished
      | some b =>
        if endsEscape b then .known (i + 1)
        else if hasRevisions && b = 0x26 && bytes[i + 1]? = some 0x40 then
          escapeLength hasRevisions fuel (i + 3) bytes
        else escapeLength hasRevisions fuel (i + 1) bytes

/-- The place and the set that an escape of a known length names: the number of the place, the last
byte, and whether the set takes two bytes. -/
def named? (scheme : Scheme) (escape : List UInt8) : Option (Nat × UInt8 × Bool) :=
  match escape with
  | [_, 0x24, mark] => some (0, mark, true)
  | [_, 0x28, mark] => some (0, mark, false)
  | [_, 0x29, mark] => some (1, mark, false)
  | [_, 0x2E, mark] => if scheme.hasThird then some (2, mark, false) else none
  | [_, 0x24, 0x28, mark] => some (0, mark, true)
  | [_, 0x24, 0x29, mark] => some (1, mark, true)
  | [_, _, _, 0x1B, 0x24, 0x42] => if scheme.hasRevisions then some (0, 0x42, true) else none
  | _ => none

def Scheme.alphabet? (scheme : Scheme) (mark : UInt8) (isWide : Bool) : Option Alphabet :=
  if mark = 0x42 ∧ !isWide then some .ascii
  else
    (scheme.alphabets.find? fun (m, wide, _) => m = mark && wide = isWide).map (·.2.2)

def Places.put (places : Places) (place : Nat) (alphabet : Alphabet) : Places :=
  match place with
  | 0 => { places with first := alphabet }
  | 1 => { places with second := alphabet }
  | _ => { places with third := alphabet }

def nameStep (scheme : Scheme) (places : Places) (bytes : List UInt8) : Step Places :=
  match escapeLength scheme.hasRevisions maxEscape 1 bytes with
  | .unfinished => .unfinished
  | .unending => .wrong 1
  | .known length =>
    let alphabet := (named? scheme (bytes.take length)).bind fun (place, mark, isWide) =>
      (scheme.alphabet? mark isWide).map (place, ·)
    match alphabet with
    | some (place, alphabet) => .chars [] length (places.put place alphabet)
    | none => .wrong length

def greekLetters : String :=
  "\u00a0‘’£��¦§¨©�«¬\u00ad�―°±²³΄΅Ά·ΈΉΊ»Ό½ΎΏΐΑΒΓΔΕΖΗ" ++
  "ΘΙΚΛΜΝΞΟΠΡ�ΣΤΥΦΧΨΩΪΫάέήίΰαβγδεζηθικλμνξοπρςστυφχψωϊϋόύώ�"

def thirdStep (places : Places) (b : UInt8) : Step Places :=
  match places.third with
  | .western => if b < 0x80 then .chars [Char.ofNat (b.toNat + 0x80)] 3 places else .wrong 3
  | .greek =>
    let n := (b ^^^ 0x80).toNat
    if n < 0xA0 then .chars [Char.ofNat n] 3 places
    else
      match greekLetters.toList[n - 0xA0]? with
      | some c => if c = Utf8.replacement then .wrong 3 else .chars [c] 3 places
      | none => .wrong 3
  | .ascii => if b < 0x80 then .chars [asciiChar b] 3 places else .wrong 3
  | _ => .undesignated

def Alphabet.pair? (alphabet : Alphabet) (cell : Nat) : Option (List Char) :=
  match alphabet with
  | .kanji | .oldKanji => (Charset.kanji.get? cell).map ([·])
  | .supplement => (Charset.supplement.get? cell).map ([·])
  | .extended edition => extended? edition cell
  | .second => second? .second cell
  | .hangul => (Charset.hangul.get? cell).map ([·])
  | .simplified => (Charset.simplified.get? cell).map ([·])
  | _ => none

def Alphabet.one? (alphabet : Alphabet) (b : UInt8) : Option Char :=
  match alphabet with
  | .roman => some (Charset.roman b)
  | .katakana => katakana? (b ^^^ 0x80)
  | _ => none

def Alphabet.isWide : Alphabet → Bool
  | .ascii | .roman | .katakana | .western | .greek => false
  | _ => true

def letterStep (places : Places) (alphabet : Alphabet) (a : UInt8) (rest : List UInt8) :
    Step Places :=
  if alphabet.isWide then
    match rest with
    | [] => .unfinished
    | b :: _ =>
      match (cell? a.toNat b.toNat).bind alphabet.pair? with
      | some text => .chars text 2 places
      | none => .wrong 2
  else
    match alphabet.one? a with
    | some c => .chars [c] 1 places
    | none => .wrong 1

def designatedStep (scheme : Scheme) (places : Places) (bytes : List UInt8) : Step Places :=
  match bytes with
  | [] => .unfinished
  | a :: rest =>
    let plain : Step Places := .chars [asciiChar a] 1 places
    if places.isPassing then
      .chars [asciiChar a] 1 { places with isPassing := !endsEscape a }
    else if a = escape then
      match rest with
      | [] => .unfinished
      | b :: rest =>
        if startsName b then nameStep scheme places bytes
        else if scheme.hasThird && b = 0x4E then
          match rest with
          | [] => .unfinished
          | c :: _ => thirdStep places c
        else .chars [asciiChar a] 1 { places with isPassing := true }
    else if a = 0x0F && scheme.hasShifts then .chars [] 1 { places with isShifted := false }
    else if a = 0x0E && scheme.hasShifts then .chars [] 1 { places with isShifted := true }
    else if a = 0x0A then .chars ['\n'] 1 { places with isShifted := false }
    else if a < 0x20 then plain
    else if 0x80 ≤ a then .wrong 1
    else
      let alphabet := if places.isShifted then places.second else places.first
      if alphabet = .ascii then plain else letterStep places alphabet a rest

/-! ## Schemes -/

def japaneseAlphabets : List (UInt8 × Bool × Alphabet) :=
  [(0x42, true, .kanji), (0x4A, false, .roman), (0x40, true, .oldKanji)]

def japaneseScheme : Scheme where
  alphabets := japaneseAlphabets

def japaneseScheme₁ : Scheme where
  alphabets := japaneseAlphabets ++ [(0x44, true, .supplement)]

def japaneseScheme₂ : Scheme where
  alphabets := japaneseAlphabets ++
    [(0x44, true, .supplement), (0x43, true, .hangul), (0x41, true, .simplified),
      (0x41, false, .western), (0x46, false, .greek)]
  hasThird := true

def japaneseScheme₃ : Scheme where
  alphabets := [(0x42, true, .kanji), (0x4F, true, .extended .first), (0x50, true, .second)]

def japaneseScheme₄ : Scheme where
  alphabets := [(0x42, true, .kanji), (0x51, true, .extended .second),
    (0x50, true, .second)]

def japaneseSchemeKana : Scheme where
  alphabets := japaneseAlphabets ++ [(0x44, true, .supplement), (0x49, false, .katakana)]

def koreanScheme : Scheme where
  alphabets := [(0x43, true, .hangul)]
  hasShifts := true
  hasRevisions := false

end TypeGraph.Charset
