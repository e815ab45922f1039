import TypeGraph.Data.Value

/-!
# Reading JSON

A number with a point or an exponent is a double, any other an integer; the words `NaN`, `Infinity`
and `-Infinity` are doubles too.  A pair of surrogate escapes is one character.  Of entries with the
same key the last one counts, at the place of the first.
-/

namespace TypeGraph.Json

def skipBlanks (s : List Char) : List Char :=
  s.dropWhile fun c => c = ' ' || c = '\t' || c = '\n' || c = '\r'

def hexValue? (c : Char) : Option Nat :=
  if '0' ≤ c ∧ c ≤ '9' then some (c.toNat - 0x30)
  else if 'a' ≤ c ∧ c ≤ 'f' then some (c.toNat - 0x57)
  else if 'A' ≤ c ∧ c ≤ 'F' then some (c.toNat - 0x37)
  else none

def hexNumber? (digits : List Char) : Option Nat :=
  digits.foldl (fun acc c => do return 16 * (← acc) + (← hexValue? c)) (some 0)

def shortEscape? (c : Char) : Option Char :=
  if c = '"' ∨ c = '\\' ∨ c = '/' then some c
  else if c = 'n' then some '\n'
  else if c = 'r' then some '\r'
  else if c = 't' then some '\t'
  else if c = 'b' then some (Char.ofNat 0x08)
  else if c = 'f' then some (Char.ofNat 0x0C)
  else none

/-- Completes a pair of surrogates: a pending first half waits for its second one. -/
def pushUnit (done : List Char) (pending : Option Nat) (unit : Nat) :
    List Char × Option Nat :=
  match pending with
  | some first =>
    if 0xDC00 ≤ unit ∧ unit < 0xE000 then
      (Char.ofNat (0x10000 + (first - 0xD800) * 0x400 + (unit - 0xDC00)) :: done, none)
    else if 0xD800 ≤ unit ∧ unit < 0xDC00 then (Char.ofNat 0xFFFD :: done, some unit)
    else (Char.ofNat unit :: Char.ofNat 0xFFFD :: done, none)
  | none =>
    if 0xD800 ≤ unit ∧ unit < 0xDC00 then (done, some unit)
    else if 0xDC00 ≤ unit ∧ unit < 0xE000 then (Char.ofNat 0xFFFD :: done, none)
    else (Char.ofNat unit :: done, none)

/-- The characters read so far, with a lone first half of a pair replaced. -/
def settle (done : List Char) : Option Nat → List Char
  | some _ => Char.ofNat 0xFFFD :: done
  | none => done

/-- A JSON text from behind its opening quote; `done` is what was read, last character first. -/
def textBody (done : List Char) (pending : Option Nat) :
    List Char → Option (String × List Char)
  | [] => none
  | '"' :: rest => some (String.ofList (settle done pending).reverse, rest)
  | '\\' :: 'u' :: a :: b :: c :: d :: rest =>
    match hexNumber? [a, b, c, d] with
    | some unit =>
      let (done, pending) := pushUnit done pending unit
      textBody done pending rest
    | none => none
  | '\\' :: e :: rest =>
    match shortEscape? e with
    | some c => textBody (c :: settle done pending) none rest
    | none => none
  | c :: rest => if c.toNat < 0x20 then none else textBody (c :: settle done pending) none rest

def decimalNumber (digits : List Char) : Nat :=
  digits.foldl (fun acc c => 10 * acc + (c.toNat - 0x30)) 0

def number? (s : List Char) : Option (Value × List Char) :=
  let isDigit (c : Char) : Bool := '0' ≤ c && c ≤ '9'
  let (negative, s) := match s with
    | '-' :: rest => (true, rest)
    | rest => (false, rest)
  let whole := s.takeWhile isDigit
  let s := s.dropWhile isDigit
  if whole = [] then none
  else
    let (fraction, s) := match s with
      | '.' :: rest => (some (rest.takeWhile isDigit), rest.dropWhile isDigit)
      | rest => (none, rest)
    let (exponent, s) : Option Int × List Char := match s with
      | e :: rest =>
        if e = 'e' ∨ e = 'E' then
          let (down, rest) := match rest with
            | '-' :: r => (true, r)
            | '+' :: r => (false, r)
            | r => (false, r)
          let n : Int := decimalNumber (rest.takeWhile isDigit)
          (some (if down then -n else n), rest.dropWhile isDigit)
        else (none, e :: rest)
      | [] => (none, [])
    match fraction, exponent with
    | none, none =>
      let n : Int := decimalNumber whole
      some (.int (if negative then -n else n), s)
    | _, _ =>
      let digits := whole ++ fraction.getD []
      let power := exponent.getD 0 - (fraction.getD []).length
      some (.real (Binary64.ofDecimal negative (decimalNumber digits) power), s)

def word? (w s : List Char) : Option (List Char) :=
  if w.isPrefixOf s then some (s.drop w.length) else none

def infinityTail : List Char := ['n', 'f', 'i', 'n', 'i', 't', 'y']

/-- Puts an entry in, replacing the value of an equal key. -/
def putEntry (entries : List (Value × Value)) (key : String) (value : Value) :
    List (Value × Value) :=
  if entries.any fun (k, _) => k.text? == some key then
    entries.map fun (k, v) => if k.text? == some key then (k, value) else (k, v)
  else entries ++ [(.text key, value)]

mutual

def value? : Nat → List Char → Option (Value × List Char)
  | 0, _ => none
  | fuel + 1, s =>
    match skipBlanks s with
    | '"' :: rest => (textBody [] none rest).map fun (t, rest) => (.text t, rest)
    | '[' :: rest =>
      match skipBlanks rest with
      | ']' :: rest => some (.list [], rest)
      | rest => items? fuel [] rest
    | '{' :: rest =>
      match skipBlanks rest with
      | '}' :: rest => some (.mapping [], rest)
      | rest => entries? fuel [] rest
    | 't' :: rest => (word? ['r', 'u', 'e'] rest).map fun rest => (.bool true, rest)
    | 'f' :: rest => (word? ['a', 'l', 's', 'e'] rest).map fun rest => (.bool false, rest)
    | 'n' :: rest => (word? ['u', 'l', 'l'] rest).map fun rest => (.null, rest)
    | 'N' :: rest => (word? ['a', 'N'] rest).map fun rest => (.real .nan, rest)
    | 'I' :: rest => (word? infinityTail rest).map fun rest => (.real (.infinite false), rest)
    | '-' :: 'I' :: rest => (word? infinityTail rest).map fun rest => (.real (.infinite true), rest)
    | rest => number? rest

def items? : Nat → List Value → List Char → Option (Value × List Char)
  | 0, _, _ => none
  | fuel + 1, done, s =>
    match value? fuel s with
    | none => none
    | some (v, rest) =>
      match skipBlanks rest with
      | ',' :: rest => items? fuel (v :: done) rest
      | ']' :: rest => some (.list (v :: done).reverse, rest)
      | _ => none

def entries? : Nat → List (Value × Value) → List Char → Option (Value × List Char)
  | 0, _, _ => none
  | fuel + 1, done, s =>
    match skipBlanks s with
    | '"' :: rest =>
      match textBody [] none rest with
      | none => none
      | some (key, rest) =>
        match skipBlanks rest with
        | ':' :: rest =>
          match value? fuel rest with
          | none => none
          | some (v, rest) =>
            match skipBlanks rest with
            | ',' :: rest => entries? fuel (putEntry done key v) rest
            | '}' :: rest => some (.mapping (putEntry done key v), rest)
            | _ => none
        | _ => none
    | _ => none

end

/-- Reads a JSON document.  No value is nested deeper than the text is long, so the length of the
text is fuel enough. -/
def read? (s : String) : Option Value :=
  let cs := s.toList
  match value? (2 * cs.length + 2) cs with
  | some (v, rest) => if skipBlanks rest = [] then some v else none
  | none => none

end TypeGraph.Json
