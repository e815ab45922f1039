import TypeGraph.Number.Shortest

/-!
# Dates and points in time
-/

namespace TypeGraph

structure Date where
  year : Nat
  month : Nat
  day : Nat
deriving DecidableEq, Repr

/-- A point in time.  The offset is the distance from universal time in minutes. -/
structure Timestamp where
  date : Date
  hour : Nat
  minute : Nat
  second : Nat
  microsecond : Nat
  offset : Option Int
deriving DecidableEq, Repr

inductive MomentError where
  | offset (minutes : Int)
  | year (n : Nat)
  | month
  | day
  | hour
  | minute
  | second
deriving DecidableEq, Repr

/-- A span of time inside a larger text: whole days and the seconds left over. -/
def spanLiteral (minutes : Int) : String :=
  let seconds := minutes * 60
  let days := Int.fdiv seconds 86400
  let rest := Int.fmod seconds 86400
  let parts :=
    (if days = 0 then [] else [s!"days={days}"]) ++ (if rest = 0 then [] else [s!"seconds={rest}"])
  "datetime.timedelta(" ++ ", ".intercalate parts ++ ")"

def MomentError.message : MomentError → String
  | .offset minutes =>
    "offset must be a timedelta strictly between -timedelta(hours=24) and timedelta(hours=24), " ++
      s!"not {spanLiteral minutes}."
  | .year n => s!"year {n} is out of range"
  | .month => "month must be in 1..12"
  | .day => "day is out of range for month"
  | .hour => "hour must be in 0..23"
  | .minute => "minute must be in 0..59"
  | .second => "second must be in 0..59"

def isLeapYear (year : Nat) : Bool := year % 4 = 0 && (year % 100 ≠ 0 || year % 400 = 0)

def daysInMonth (year month : Nat) : Nat :=
  if month = 2 then if isLeapYear year then 29 else 28
  else if month = 4 ∨ month = 6 ∨ month = 9 ∨ month = 11 then 30
  else 31

def Date.of (year month day : Nat) : Except MomentError Date :=
  if year = 0 ∨ 9999 < year then .error (.year year)
  else if month = 0 ∨ 12 < month then .error .month
  else if day = 0 ∨ daysInMonth year month < day then .error .day
  else .ok ⟨year, month, day⟩

def checkOffset (offset : Option Int) : Except MomentError Unit :=
  match offset with
  | none => .ok ()
  | some minutes => if minutes.natAbs < 1440 then .ok () else .error (.offset minutes)

def Timestamp.of (date : Date) (hour minute second microsecond : Nat) (offset : Option Int) :
    Except MomentError Timestamp :=
  if 23 < hour then .error .hour
  else if 59 < minute then .error .minute
  else if 59 < second then .error .second
  else .ok ⟨date, hour, minute, second, microsecond, offset⟩

def daysBeforeYear (year : Nat) : Nat :=
  let y := year - 1
  y * 365 + y / 4 - y / 100 + y / 400

/-- The number of days up to a date, counted from the first day of the year 1. -/
def Date.ordinal (d : Date) : Nat :=
  let months := (List.range (d.month - 1)).foldl (fun n m => n + daysInMonth d.year (m + 1)) 0
  daysBeforeYear d.year + months + d.day

/-- The point in time in microseconds of universal time, if its offset is known. -/
def Timestamp.instant? (t : Timestamp) : Option Int :=
  t.offset.map fun minutes =>
    let clock : Int := (t.date.ordinal * 24 + t.hour) * 60 + t.minute
    ((clock - minutes) * 60 + t.second) * 1000000 + t.microsecond

/-- Whether two points in time are the same.  Those with an offset are compared by universal time,
and one without differs from them. -/
def Timestamp.isSame (a b : Timestamp) : Bool :=
  match a.instant?, b.instant? with
  | some x, some y => x = y
  | none, none => a = b
  | _, _ => false

def twoDigits (n : Nat) : String := padZeros 2 (toString n)

def Date.text (d : Date) : String :=
  padZeros 4 (toString d.year) ++ "-" ++ twoDigits d.month ++ "-" ++ twoDigits d.day

def offsetText (minutes : Int) : String :=
  (if minutes < 0 then "-" else "+") ++ twoDigits (minutes.natAbs / 60) ++ ":" ++
    twoDigits (minutes.natAbs % 60)

def Timestamp.text (t : Timestamp) : String :=
  t.date.text ++ " " ++ twoDigits t.hour ++ ":" ++ twoDigits t.minute ++ ":" ++
    twoDigits t.second ++
    (if t.microsecond = 0 then "" else "." ++ padZeros 6 (toString t.microsecond)) ++
    (t.offset.map offsetText).getD ""

def Date.literal (d : Date) : String := s!"datetime.date({d.year}, {d.month}, {d.day})"

def offsetLiteral (minutes : Int) : String :=
  if minutes = 0 then "datetime.timezone.utc"
  else "datetime.timezone(" ++ spanLiteral minutes ++ ")"

/-- The point in time inside a larger value: zero seconds and fractions at the end are left out. -/
def Timestamp.literal (t : Timestamp) : String :=
  let clock :=
    if t.microsecond ≠ 0 then [t.hour, t.minute, t.second, t.microsecond]
    else if t.second ≠ 0 then [t.hour, t.minute, t.second]
    else [t.hour, t.minute]
  let numbers := [t.date.year, t.date.month, t.date.day] ++ clock
  let zone := t.offset.toList.map fun z => "tzinfo=" ++ offsetLiteral z
  "datetime.datetime(" ++ ", ".intercalate (numbers.map toString ++ zone) ++ ")"

end TypeGraph
