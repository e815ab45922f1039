import TypeGraph.Data.Value
import TypeGraph.Number.Numeral
import TypeGraph.Text.Base64
import TypeGraph.Text.Case
import TypeGraph.Yaml.Cursor

/-!
# The types of YAML scalars

A plain scalar without a tag has the type that its form shows: a truth value, a number, a date,
null, or else a text.  A tag asks for a type, and then the text has to be of that type.  A line feed
at the end of a text does not count for its form.
-/

namespace TypeGraph.Yaml

open Text (CodePoints)

inductive Tag where
  | null
  | bool
  | int
  | float
  | binary
  | timestamp
  | omap
  | pairs
  | set
  | str
  | seq
  | map
  | merge
  | value
  | unknown
deriving DecidableEq, Repr

def Tag.ofName (name : String) : Tag :=
  let short := [
    ("null", Tag.null), ("bool", .bool), ("int", .int), ("float", .float), ("binary", .binary),
    ("timestamp", .timestamp), ("omap", .omap), ("pairs", .pairs), ("set", .set), ("str", .str),
    ("seq", .seq), ("map", .map), ("merge", .merge), ("value", .value)]
  ((short.map fun (n, t) => ("tag:yaml.org,2002:" ++ n, t)).lookup name).getD .unknown

/-! ## Forms -/

def isLooseDigit (c : Char) : Bool := c.isDigit || c = '_'

def dropSign : List Char → List Char
  | '-' :: s => s
  | '+' :: s => s
  | s => s

/-- Whether every part behind the first of a number in base sixty is below sixty. -/
def areSixtieths (parts : List (List Char)) : Bool :=
  !parts.isEmpty && parts.all fun part =>
    match part with
    | [d] => d.isDigit
    | [t, d] => '0' ≤ t && t ≤ '5' && d.isDigit
    | _ => false

/-- Whether a text starts with a digit and goes on with digits and underscores. -/
def isLooseNumber : List Char → Bool
  | [] => false
  | d :: rest => d.isDigit && rest.all isLooseDigit

def isIntForm (s : List Char) : Bool :=
  let isBinary (c : Char) : Bool := c = '0' || c = '1' || c = '_'
  let isOctal (c : Char) : Bool := ('0' ≤ c && c ≤ '7') || c = '_'
  let isHex (c : Char) : Bool :=
    c.isDigit || ('a' ≤ c && c ≤ 'f') || ('A' ≤ c && c ≤ 'F') || c = '_'
  match dropSign s with
  | ['0'] => true
  | '0' :: 'b' :: rest => !rest.isEmpty && rest.all isBinary
  | '0' :: 'x' :: rest => !rest.isEmpty && rest.all isHex
  | '0' :: rest => rest.all isOctal
  | rest =>
    match rest.splitOn ':' with
    | [whole] => isLooseNumber whole
    | whole :: parts => isLooseNumber whole && areSixtieths parts
    | [] => false

/-- The exponent of a float, which has a sign, or nothing. -/
def isSignedExponent : List Char → Bool
  | [] => true
  | e :: sign :: digits =>
    (e = 'e' || e = 'E') && (sign = '+' || sign = '-') && !digits.isEmpty && digits.all Char.isDigit
  | _ => false

/-- The form of a float: it has a point. -/
def isFloatForm (s : List Char) : Bool :=
  let body := dropSign s
  let text := String.ofList body
  let hasSign := body.length ≠ s.length
  if text = ".inf" ∨ text = ".Inf" ∨ text = ".INF" then true
  else if text = ".nan" ∨ text = ".NaN" ∨ text = ".NAN" then !hasSign
  else
    match body with
    | '.' :: d :: rest =>
      !hasSign && d.isDigit && isSignedExponent (rest.dropWhile isLooseDigit)
    | _ =>
      match body.splitOn ':' with
      | [_] =>
        let whole := body.takeWhile isLooseDigit
        match body.dropWhile isLooseDigit with
        | '.' :: rest => isLooseNumber whole && isSignedExponent (rest.dropWhile isLooseDigit)
        | _ => false
      | whole :: parts =>
        let last := parts.getLast?.getD []
        match last.dropWhile (· ≠ '.') with
        | '.' :: fraction =>
          isLooseNumber whole && areSixtieths (parts.dropLast ++ [last.takeWhile (· ≠ '.')]) &&
            fraction.all isLooseDigit
        | _ => false
      | [] => false

def digitRun? (least most : Nat) (s : List Char) : Option (Nat × List Char) :=
  let run := s.takeWhile Char.isDigit
  if least ≤ run.length ∧ run.length ≤ most then
    some (Numeral.natOfDigits run, s.dropWhile Char.isDigit)
  else none

/-- The text behind a character. -/
def behind? (c : Char) : List Char → Option (List Char)
  | ch :: rest => if ch = c then some rest else none
  | [] => none

/-- The parts of a date with an optional clock. -/
structure MomentParts where
  year : Nat
  month : Nat
  day : Nat
  clock : Option (Nat × Nat × Nat × List Char × Option Int)

/-- The distance from universal time at the end of a clock, in minutes, if any. -/
def offset? (s : List Char) : Option (Option Int) :=
  let isWhite (c : Char) : Bool := c = ' ' || c = '\t'
  match s.dropWhile isWhite with
  | [] => if s = [] then some none else none
  | ['Z'] => some (some 0)
  | sign :: rest => do
    if sign ≠ '+' ∧ sign ≠ '-' then none
    let (hours, rest) ← digitRun? 1 2 rest
    let minutes ←
      match rest with
      | [] => some 0
      | ':' :: rest => do
        let (minutes, rest) ← digitRun? 2 2 rest
        if rest = [] then some minutes else none
      | _ => none
    let total : Int := (hours * 60 + minutes : Nat)
    return some (if sign = '-' then -total else total)

/-- Reads a date, with `strict` in two digits each, or a date with a clock. -/
def momentParts? (strict : Bool) (s : List Char) : Option MomentParts := do
  let (year, rest) ← digitRun? 4 4 s
  let (month, rest) ← digitRun? 1 2 (← behind? '-' rest)
  let (day, rest) ← digitRun? 1 2 (← behind? '-' rest)
  if rest = [] then
    if strict ∧ s.length ≠ 10 then none else return ⟨year, month, day, none⟩
  else
    let isWhite (c : Char) : Bool := c = ' ' || c = '\t'
    let rest ← match rest with
      | 'T' :: r => some r
      | 't' :: r => some r
      | c :: r => if isWhite c then some (r.dropWhile isWhite) else none
      | [] => none
    let (hour, rest) ← digitRun? 1 2 rest
    let (minute, rest) ← digitRun? 2 2 (← behind? ':' rest)
    let (second, rest) ← digitRun? 2 2 (← behind? ':' rest)
    let (fraction, rest) := match rest with
      | '.' :: r => (r.takeWhile Char.isDigit, r.dropWhile Char.isDigit)
      | r => ([], r)
    let offset ← offset? rest
    return ⟨year, month, day, some (hour, minute, second, fraction, offset)⟩

def truthWords : List (String × Bool) :=
  [("yes", true), ("no", false), ("true", true), ("false", false), ("on", true), ("off", false)]

/-- A text in lower case, in capitals, or with a capital at its start. -/
def casings (s : String) : List String :=
  let upper := Text.upperCase s
  [s, String.ofList (upper.toList.take 1 ++ s.toList.drop 1), upper]

/-- The type that a form shows.  The marks of tags, anchors and aliases have a type without
values. -/
def Tag.ofForm (text : String) : Tag :=
  let s := text.toList
  if truthWords.any fun (w, _) => (casings w).contains text then .bool
  else if isFloatForm s then .float
  else if isIntForm s then .int
  else if text = "<<" then .merge
  else if text = "" ∨ text = "~" ∨ (casings "null").contains text then .null
  else if (momentParts? true s).isSome then .timestamp
  else if text = "=" then .value
  else if text = "!" ∨ text = "&" ∨ text = "*" then .unknown
  else .str

def dropLineFeed (s : List Char) : List Char :=
  if s.getLast? = some '\n' then s.dropLast else s

/-- The type that the form of a plain scalar shows.  A lone line feed is a text. -/
def Tag.ofPlain (text : CodePoints) : Tag :=
  match text.toString? with
  | none => .str
  | some s => if s = "\n" then .str else .ofForm (String.ofList (dropLineFeed s.toList))

/-! ## Values -/

/-- The underscore, which does not count in numbers. -/
def underscore : Nat := 0x5F

/-- Whether a number starts with a minus, and what follows an optional sign. -/
def splitSign : CodePoints → Bool × CodePoints
  | 0x2D :: s => (true, s)
  | 0x2B :: s => (false, s)
  | s => (false, s)

/-- An integer in one base, or the fault of its text. -/
def intOfBase (base : Nat) (s : CodePoints) : Except Fault Int :=
  match Integer.read base s with
  | .ok n => .ok n
  | .error e => .error (.number (e.message base s))

/-- The integer of a text.  In base sixty colons divide the digits, each of which is an integer of
its own. -/
def intValue (text : CodePoints) : Except Fault Int := do
  let (negative, body) := splitSign (text.filter (· ≠ underscore))
  let magnitude ←
    match body with
    | [] => throw .blankNumber
    | [0x30] => pure 0
    | 0x30 :: 0x62 :: rest => intOfBase 2 rest
    | 0x30 :: 0x78 :: rest => intOfBase 16 rest
    | 0x30 :: _ => intOfBase 8 body
    | _ => do
      let parts ← (body.splitOn 0x3A).mapM (intOfBase 10)
      pure (parts.foldl (fun acc n => acc * 60 + n) 0)
  return if negative then -magnitude else magnitude

def floatOf (s : CodePoints) : Except Fault Binary64 :=
  match Numeral.plain? (Integer.plainForm s) with
  | some x => .ok x
  | none => .error (.number ("could not convert string to float: " ++ s.quoted))

/-- Adds up the digits of a number in base sixty from the last one, each step rounded.  A power of
sixty beyond the range of floats is a fault. -/
def addSixtieths (sum : Binary64) (power : Nat) : List Binary64 → Except Fault Binary64
  | [] => .ok sum
  | digit :: rest =>
    match Binary64.ofInt power with
    | .infinite _ => .error .overflow
    | factor => addSixtieths (sum.add (digit.mul factor)) (power * 60) rest

def nanWord : CodePoints := CodePoints.ofString ".nan"

def floatParts (text : CodePoints) : Bool × CodePoints :=
  splitSign (Text.lowerCodes (text.filter (· ≠ underscore)))

def floatValue (text : CodePoints) : Except Fault Binary64 := do
  if text.all (· = underscore) then throw .blankNumber
  let (negative, body) := floatParts text
  if body = CodePoints.ofString ".inf" then return .infinite negative
  if body = nanWord then return .nan
  let signed (x : Binary64) : Binary64 := if negative then x.neg else x
  match body.splitOn 0x3A with
  | [_] => return signed (← floatOf body)
  | parts => return signed (← addSixtieths (Binary64.zero false) 1 (← parts.mapM floatOf).reverse)

def boolValue (text : CodePoints) : Except Fault Bool :=
  let word := (CodePoints.toString? (Text.lowerCodes text)).getD ""
  match truthWords.lookup word with
  | some b => .ok b
  | none => .error (.truth word)

/-- The bytes of base 64 text; characters outside the alphabet do not count. -/
def binaryValue (text : CodePoints) : Except Fault (List UInt8) :=
  if text.any (0x80 ≤ ·) then .error .construction
  else
    match Base64.standard.decodeLoosely {} (text.map Char.ofNat) with
    | some bytes => .ok bytes
    | none => .error .construction

/-- A date or a point in time from its parts.  The offset is checked before all else. -/
def MomentParts.value (parts : MomentParts) : Except MomentError Value := do
  match parts.clock with
  | none => return .date (← Date.of parts.year parts.month parts.day)
  | some (hour, minute, second, fraction, offset) =>
    checkOffset offset
    let date ← Date.of parts.year parts.month parts.day
    let digits := (fraction ++ List.replicate 6 '0').take 6
    return .timestamp
      (← Timestamp.of date hour minute second (Numeral.natOfDigits digits) offset)

def momentValue (text : CodePoints) : Except Fault Value :=
  match text.toString?.bind fun s => momentParts? false (dropLineFeed s.toList) with
  | none => .error .notMoment
  | some parts =>
    match parts.value with
    | .ok v => .ok v
    | .error e => .error (.moment e.message)

def scalarValue (tag : Tag) (text : CodePoints) : Except Fault Value :=
  match tag with
  | .null => .ok .null
  | .bool => (boolValue text).map .bool
  | .int => (intValue text).map .int
  | .float => (floatValue text).map .real
  | .binary => (binaryValue text).map .bytes
  | .timestamp => momentValue text
  | .str => .ok (.ofCodes text)
  | _ => .error .construction

end TypeGraph.Yaml
