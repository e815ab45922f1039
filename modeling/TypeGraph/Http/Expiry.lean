import TypeGraph.Data.Moment
import TypeGraph.Number.Integer
import TypeGraph.Text.Blank

/-!
# When a cookie lapses

The date of a cookie has a day, a month and a year, and may have a clock and a zone.  Blanks,
hyphens or slashes divide it, and the name of a weekday in front does not count.  A date in the
exact form of a header is read first.  Moments are seconds of universal time since the start of
1970.
-/

namespace TypeGraph

/-- A mistake that makes all cookies of an answer void. -/
inductive CookieFault where
  /-- A date in exact form names no month. -/
  | month
  /-- A year has too many digits. -/
  | year
  /-- An age has no value. -/
  | ageless
  /-- A date is not read. -/
  | unread
  /-- An age is too great for a number. -/
  | distant
  /-- There is no authority that could have a port. -/
  | noAuthority
deriving DecidableEq, Repr

namespace Expiry

/-- The year that two digits of a year are near to. -/
def presentYear : Nat := 2026

def monthNames : List String :=
  ["jan", "feb", "mar", "apr", "may", "jun", "jul", "aug", "sep", "oct", "nov", "dec"]

def monthOfName? (name : List Char) : Option Nat :=
  (monthNames.idxOf? (String.ofList (name.map Char.toLower))).map (· + 1)

def month? (s : List Char) : Option Nat :=
  match monthOfName? s, Integer.read 10 (Text.CodePoints.ofChars s) with
  | some n, _ => some n
  | none, .ok n => if 1 ≤ n ∧ n ≤ 12 then some n.toNat else none
  | none, .error _ => none

structure Numbers where
  year : Nat
  month : Nat
  day : Nat
  hour : Nat := 0
  minute : Nat := 0
  second : Nat := 0

/-- The moment of a point in time from 1970 on.  A day may lie beyond its month, and up to two
seconds may be leap seconds. -/
def Numbers.moment? (n : Numbers) : Option Int :=
  if n.year < 1970 ∨ n.day = 0 ∨ 31 < n.day ∨ 24 < n.hour ∨ 59 < n.minute ∨ 61 < n.second then none
  else
    let days := (Date.ordinal ⟨n.year, n.month, 1⟩ + n.day - 1 : Int) - Date.ordinal ⟨1970, 1, 1⟩
    some (((days * 24 + n.hour) * 60 + n.minute) * 60 + n.second)

/-- The moment from which on a date lies ahead. -/
def present : Int := (Numbers.moment? ⟨presentYear, 11, 1, 0, 0, 0⟩).getD 0

def number (s : List Char) : Nat := Integer.ofDigits 10 s

/-! ## The exact form -/

/-- The exact form: a star stands for the initial of a weekday, a question mark for that of a month,
`x` for a small letter and `0` for a digit. -/
def exactForm : List Char := "*xx, 00 ?xx 0000 00:00:00 GMT".toList

/-- Whether a character can stand at a place of the exact form. -/
def fitsPlace (place c : Char) : Bool :=
  match place with
  | '*' => "SMTWF".toList.contains c
  | '?' => "JFMASOND".toList.contains c
  | 'x' => c.isLower
  | '0' => c.isDigit
  | _ => place = c

/-- Whether a text has the exact form; a line end may follow. -/
def isExact (s : List Char) : Bool :=
  (s.length = exactForm.length || s.drop exactForm.length = ['\n']) &&
    (exactForm.zip s).all fun (place, c) => fitsPlace place c

def readExact (s : List Char) : Except CookieFault (Option Int) :=
  let part (start length : Nat) : List Char := (s.drop start).take length
  match monthOfName? (part 8 3) with
  | none => .error .month
  | some month =>
    .ok (Numbers.moment?
      { year := number (part 12 4)
        month := month
        day := number (part 5 2)
        hour := number (part 17 2)
        minute := number (part 20 2)
        second := number (part 23 2) })

/-! ## The free form -/

def dropSpaces (s : List Char) : List Char := s.dropWhile Integer.isSpace

def isWordChar (c : Char) : Bool := c.isAlphanum || c = '_'

/-- A text without the weekday in front, the comma behind it and the blanks behind that. -/
def dropWeekday (s : List Char) : List Char :=
  let names := ["sun", "mon", "tue", "wed", "thu", "fri", "sat"]
  if names.contains (String.ofList ((s.take 3).map Char.toLower)) then
    match (s.drop 3).dropWhile Char.isAlpha with
    | ',' :: rest => dropSpaces rest
    | rest => dropSpaces rest
  else s

/-- A text without the blanks or the single mark in front, of which there has to be one. -/
def dropDivider? (isMark : Char → Bool) : List Char → Option (List Char)
  | [] => none
  | c :: rest =>
    if Integer.isSpace c then some (dropSpaces rest) else if isMark c then some rest else none

/-- A run of digits, at least `least` and at most `most` of them, and the rest. -/
def digits? (least most : Nat) (s : List Char) : Option (List Char × List Char) :=
  let run := s.takeWhile Char.isDigit
  if least ≤ run.length ∧ run.length ≤ most then some (run, s.drop run.length) else none

def pair? (s : List Char) : Option (Nat × List Char) :=
  let two := s.take 2
  if two.length = 2 ∧ two.all Char.isDigit then some (number two, s.drop 2) else none

/-- Hour, minute and second of a clock, and the rest; seconds may be absent. -/
def clock? (s : List Char) : Option ((Nat × Nat × Nat) × List Char) := do
  let (hour, s) ← digits? 1 2 (← dropDivider? (· = ':') s)
  match s with
  | ':' :: s =>
    let (minute, s) ← pair? s
    match s with
    | ':' :: rest =>
      match pair? rest with
      | some (second, rest) => return ((number hour, minute, second), rest)
      | none => return ((number hour, minute, 0), s)
    | _ => return ((number hour, minute, 0), s)
  | _ => none

/-- Whether a text is a word in parentheses with blanks behind it, or nothing. -/
def isRemark (s : List Char) : Bool :=
  match s with
  | [] => true
  | '(' :: rest =>
    let word := rest.takeWhile isWordChar
    word ≠ [] && (match rest.drop word.length with
      | ')' :: rest => rest.all Integer.isSpace
      | _ => false)
  | _ => false

/-- The zone of a date, which may be empty, and the rest: two to four digits behind an optional
sign, or letters other than those of half a day. -/
def splitZone? (s : List Char) : Option (List Char × List Char) :=
  let letters := s.takeWhile Char.isAlpha
  if letters ≠ [] then
    let name := String.ofList (letters.map Char.toLower)
    if name = "am" ∨ name = "pm" then none else some (letters, s.drop letters.length)
  else
    match s with
    | [] => some ([], [])
    | c :: rest =>
      if c = '+' ∨ c = '-' then (digits? 2 4 rest).map fun (run, rest) => (c :: run, rest)
      else if c.isDigit then digits? 2 4 s
      else some ([], s)

/-- The zone at the end of a date, behind which a remark may stand. -/
def zone? (s : List Char) : Option (List Char) :=
  match splitZone? (dropSpaces s) with
  | some (zone, rest) => if isRemark (dropSpaces rest) then some zone else none
  | none => none

/-- The distance of a zone from universal time, in seconds.  Of three digits only the first is the
hour. -/
def zoneOffset? (zone : List Char) : Option Int :=
  let names := ["", "GMT", "UTC", "UT", "Z"]
  if names.contains (String.ofList (zone.map Char.toUpper)) then some 0
  else
    let digits := zone.filter Char.isDigit
    if digits = [] then none
    else
      let hours := digits.take (if digits.length = 3 then 1 else 2)
      let offset : Int := 3600 * number hours + 60 * number (digits.drop hours.length)
      some (if zone.head? = some '-' then -offset else offset)

/-- A year of fewer than four digits as the one that is near to the present. -/
def fullYear (year : Nat) : Nat :=
  if 1000 ≤ year then year
  else
    let century := presentYear - presentYear % 100
    if 50 < year - presentYear % 100 then year + century - 100
    else if 50 < presentYear % 100 - year then year + century + 100
    else year + century

/-- The parts of a date in the free form: day, month, year, clock and zone. -/
def freeParts? (s : List Char) :
    Option (List Char × List Char × List Char × (Nat × Nat × Nat) × List Char) := do
  let isMark (c : Char) : Bool := c = '-' || c = '/'
  let (day, s) ← digits? 1 2 s
  let s ← dropDivider? isMark s
  let month := s.takeWhile isWordChar
  if month = [] then none
  let s ← dropDivider? isMark (s.drop month.length)
  let year := s.takeWhile Char.isDigit
  if year = [] then none
  let s := s.drop year.length
  let (clock, s) := (clock? s).getD ((0, 0, 0), s)
  return (day, month, year, clock, ← zone? s)

def readFree (s : List Char) : Except CookieFault (Option Int) :=
  match freeParts? (dropWeekday (Text.trimStart s)) with
  | none => .ok none
  | some (day, monthText, yearText, (hour, minute, second), zone) =>
    if Integer.maxDigits < yearText.length then .error .year
    else if 9999 < number yearText then .ok none
    else .ok do
      let month ← month? monthText
      let year := fullYear (number yearText)
      let moment ← Numbers.moment? ⟨year, month, number day, hour, minute, second⟩
      return moment - (← zoneOffset? zone)

def read (s : List Char) : Except CookieFault (Option Int) :=
  if isExact s then readExact s else readFree s

end Expiry

end TypeGraph
