import TypeGraph.Text.Blank
import TypeGraph.Text.CodePoints
import TypeGraph.Text.Digit

/-!
# Integers from text

An integer is written with an optional sign and digits of its base, between which single underscores
may stand.  The mark of the base may come first.  Digits may be those of any script, and blanks may
surround the whole.  A decimal integer has at most 4300 digits.
-/

namespace TypeGraph.Integer

inductive ReadError where
  /-- The text does not have the form of an integer. -/
  | malformed
  /-- There are too many digits. -/
  | tooLong (digits : Nat)
deriving DecidableEq, Repr

def maxDigits : Nat := 4300

/-- A code point as the ASCII character that means the same in a number; a question mark stands for
one that has no place in a number. -/
def plainChar (code : Nat) : Char :=
  if code < 0x7F then Char.ofNat code
  else
    match Text.decimalDigit? code with
    | some d => Char.ofNat (0x30 + d)
    | none => if Text.blankRanges.covers code then ' ' else '?'

/-- Whether a character may stand around a number: a space or a control from tab to carriage
return. -/
def isSpace (c : Char) : Bool := c = ' ' || (0x09 ≤ c.toNat && c.toNat ≤ 0x0D)

/-- A text in the plain characters of numbers, without the blanks around it. -/
def plainForm (codes : Text.CodePoints) : List Char :=
  (((codes.map plainChar).dropWhile isSpace).reverse.dropWhile isSpace).reverse

/-- The number that a character stands for as a digit of any base up to 36. -/
def digitValue? (c : Char) : Option Nat :=
  if c.isDigit then some (c.toNat - 0x30)
  else if c.isLower then some (c.toNat - 0x61 + 10)
  else if c.isUpper then some (c.toNat - 0x41 + 10)
  else none

def isDigitOf (base : Nat) (c : Char) : Bool := (digitValue? c).any (· < base)

def baseMark? (base : Nat) : Option Char :=
  if base = 16 then some 'x' else if base = 8 then some 'o' else if base = 2 then some 'b' else none

/-- The text behind the mark of its base, if it has one; an underscore may follow the mark. -/
def dropBaseMark (base : Nat) : List Char → List Char
  | '0' :: m :: rest =>
    if baseMark? base = some m.toLower then
      if rest.head? = some '_' then rest.drop 1 else rest
    else '0' :: m :: rest
  | s => s

/-- Whether underscores stand alone and inside. -/
def areSingle (s : List Char) : Bool :=
  s.head? ≠ some '_' && s.getLast? ≠ some '_' &&
    (s.zip (s.drop 1)).all fun (a, b) => !(a = '_' && b = '_')

def ofDigits (base : Nat) (digits : List Char) : Nat :=
  digits.foldl (fun acc c => base * acc + (digitValue? c).getD 0) 0

/-- Reads a natural number.  The number of digits counts before what follows them. -/
def readNatural (base : Nat) (s : List Char) : Except ReadError Nat :=
  let isPart (c : Char) : Bool := c = '_' || isDigitOf base c
  let run := s.takeWhile isPart
  let digits := run.filter (· ≠ '_')
  if !areSingle run then .error .malformed
  else if base = 10 ∧ maxDigits < digits.length then .error (.tooLong digits.length)
  else if digits = [] ∨ s.dropWhile isPart ≠ [] then .error .malformed
  else .ok (ofDigits base digits)

def read (base : Nat) (codes : Text.CodePoints) : Except ReadError Int :=
  match plainForm codes with
  | '-' :: s => (readNatural base (dropBaseMark base s)).map fun n => -(n : Int)
  | '+' :: s => (readNatural base (dropBaseMark base s)).map Int.ofNat
  | s => (readNatural base (dropBaseMark base s)).map Int.ofNat

/-- The text of the error; at most two hundred characters of the quoted text are shown. -/
def ReadError.message (base : Nat) (codes : Text.CodePoints) : ReadError → String
  | .malformed =>
    let shown := String.ofList ((Text.CodePoints.quoted codes).toList.take 200)
    s!"invalid literal for int() with base {base}: {shown}"
  | .tooLong digits =>
    s!"Exceeds the limit ({maxDigits} digits) for integer string conversion: value has {digits} " ++
      "digits; use sys.set_int_max_str_digits() to increase the limit"

/-- Whether an integer has too many digits to be written out. -/
def isTooLong (n : Int) : Bool := Nat.pow 10 maxDigits ≤ n.natAbs

end TypeGraph.Integer
