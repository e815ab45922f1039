import TypeGraph.Number.Binary64
import TypeGraph.Text.CodeRange

/-!
# Numbers from text

A numeral has an optional sign and either digits with an optional point and exponent, or one of the
words `inf`, `infinity` and `nan` in any case.  Blanks may surround it.  Failing that, single
underscores inside it are passed over.
-/

namespace TypeGraph.Numeral

/-- The blanks that may surround a numeral: those of Unicode's white space property. -/
def spaceRanges : Text.CodeRanges where
  ranges := [
    (0x09, 0x0D), (0x20, 0x20), (0x85, 0x85), (0xA0, 0xA0), (0x1680, 0x1680), (0x2000, 0x200A),
    (0x2028, 0x2029), (0x202F, 0x202F), (0x205F, 0x205F), (0x3000, 0x3000)]

def trim (s : List Char) : List Char :=
  let isSpace (c : Char) : Bool := spaceRanges.covers c.toNat
  ((s.dropWhile isSpace).reverse.dropWhile isSpace).reverse

def natOfDigits (digits : List Char) : Nat :=
  digits.foldl (fun acc c => 10 * acc + (c.toNat - 0x30)) 0

def exponent? : List Char → Option Int
  | [] => some 0
  | e :: rest =>
    if e ≠ 'e' ∧ e ≠ 'E' then none
    else
      let (down, digits) := match rest with
        | '-' :: r => (true, r)
        | '+' :: r => (false, r)
        | r => (false, r)
      if digits = [] ∨ !digits.all Char.isDigit then none
      else
        let n : Int := natOfDigits digits
        some (if down then -n else n)

def magnitude? (negative : Bool) (s : List Char) : Option Binary64 :=
  let lower := s.map Char.toLower
  if lower = ['i', 'n', 'f'] ∨ lower = ['i', 'n', 'f', 'i', 'n', 'i', 't', 'y'] then
    some (.infinite negative)
  else if lower = ['n', 'a', 'n'] then some .nan
  else
    let whole := s.takeWhile Char.isDigit
    let rest := s.dropWhile Char.isDigit
    let (fraction, rest) := match rest with
      | '.' :: r => (r.takeWhile Char.isDigit, r.dropWhile Char.isDigit)
      | r => ([], r)
    if whole = [] ∧ fraction = [] then none
    else
      (exponent? rest).map fun e =>
        Binary64.ofDecimal negative (natOfDigits (whole ++ fraction)) (e - fraction.length)

def plain? : List Char → Option Binary64
  | '-' :: rest => magnitude? true rest
  | '+' :: rest => magnitude? false rest
  | rest => magnitude? false rest

/-- The text without its underscores, if they stand alone and inside. -/
def dropUnderscores? (s : List Char) : Option (List Char) :=
  let doubled := (s.zip (s.drop 1)).any fun (a, b) => a = '_' && b = '_'
  if s.head? = some '_' ∨ s.getLast? = some '_' ∨ doubled ∨ '_' ∉ s then none
  else some (s.filter (· ≠ '_'))

def read? (text : String) : Option Binary64 :=
  let s := text.toList
  match plain? (trim s) with
  | some x => some x
  | none => (dropUnderscores? s).bind plain?

end TypeGraph.Numeral
