import TableFeed.Number.Printer
import TableFeed.Text.Digit

/-!
# Dates and points in time

Dates of the proleptic Gregorian calendar, and times of day to the microsecond with an optional
distance from universal time.  Both have one written form, which `Date.read?` and `Moment.read?`
take back.
-/

namespace TableFeed

open Text

/-- A day of the calendar. -/
structure Date where
  /-- The year, from 1 to 9999. -/
  year : Nat
  /-- The month, from 1. -/
  month : Nat
  /-- The day of the month, from 1. -/
  day : Nat
deriving DecidableEq, Repr

/-- A day with a time of day. -/
structure Moment where
  /-- The day. -/
  date : Date
  /-- The hour, below 24. -/
  hour : Nat
  /-- The minute, below 60. -/
  minute : Nat
  /-- The second, below 60. -/
  second : Nat
  /-- The microsecond, below a million. -/
  micro : Nat
  /-- How many seconds the clock is ahead of universal time, if that is known. -/
  ahead : Option Int
deriving DecidableEq, Repr

/-- Why numbers name no day or no time of day. -/
inductive CalendarFault where
  /-- The year is outside 1 to 9999. -/
  | year (year : Nat)
  /-- The month is outside 1 to 12. -/
  | month
  /-- The month has no such day. -/
  | day
  /-- The hour is outside 0 to 23. -/
  | hour
  /-- The minute is outside 0 to 59. -/
  | minute
  /-- The second is outside 0 to 59. -/
  | second
  /-- The clock is a day or more from universal time. -/
  | ahead (seconds : Int)
deriving DecidableEq, Repr

/-- A number with zeros in front of it up to a width. -/
def padded (width n : Nat) : String :=
  let digits := Nat.repr n
  String.ofList (List.replicate (width - digits.length) '0') ++ digits

/-- A span of seconds as a literal of days and seconds. -/
def spanLiteral (seconds : Int) : String :=
  let days := Int.fdiv seconds 86400
  let rest := Int.fmod seconds 86400
  let parts := (if days = 0 then [] else ["days=" ++ Number.printInt days]) ++
    (if rest = 0 then [] else ["seconds=" ++ Number.printInt rest])
  "datetime.timedelta(" ++ (if parts.isEmpty then "0" else String.intercalate ", " parts) ++ ")"

namespace CalendarFault

/-- What is said about the fault. -/
def message : CalendarFault → String
  | .year y => "year " ++ Nat.repr y ++ " is out of range"
  | .month => "month must be in 1..12"
  | .day => "day is out of range for month"
  | .hour => "hour must be in 0..23"
  | .minute => "minute must be in 0..59"
  | .second => "second must be in 0..59"
  | .ahead s => "offset must be a timedelta strictly between -timedelta(hours=24) and " ++
      "timedelta(hours=24), not " ++ spanLiteral s ++ "."

end CalendarFault

/-- The number of days of a month. -/
def daysInMonth (year month : Nat) : Nat :=
  if month = 2 then
    if year % 4 = 0 ∧ (year % 100 ≠ 0 ∨ year % 400 = 0) then 29 else 28
  else if month ∈ [4, 6, 9, 11] then 30
  else 31

/-- Reads digits of the ASCII range that make up a whole text of a given length. -/
def digits? (width : Nat) (cs : List Char) : Option Nat :=
  if cs.length = width then (cs.mapM (baseDigit? 10)).map (ofDigits 10) else none

namespace Date

/-- The day of a year, month and day. -/
def make (year month day : Nat) : Except CalendarFault Date :=
  if year < 1 ∨ 9999 < year then .error (.year year)
  else if month < 1 ∨ 12 < month then .error .month
  else if day < 1 ∨ daysInMonth year month < day then .error .day
  else .ok ⟨year, month, day⟩

/-- The written form: year, month and day. -/
def print (d : Date) : String :=
  padded 4 d.year ++ "-" ++ padded 2 d.month ++ "-" ++ padded 2 d.day

/-- The arguments of the literal form. -/
def arguments (d : Date) : List Nat := [d.year, d.month, d.day]

/-- The literal form, in which a date stands within a list. -/
def literal (d : Date) : String :=
  "datetime.date(" ++ String.intercalate ", " (d.arguments.map Nat.repr) ++ ")"

/-- Reads the written form. -/
def read? (cs : List Char) : Option Date := do
  guard (cs.length = 10 ∧ cs[4]? = some '-' ∧ cs[7]? = some '-')
  let year ← digits? 4 (cs.take 4)
  let month ← digits? 2 ((cs.drop 5).take 2)
  let day ← digits? 2 (cs.drop 8)
  (make year month day).toOption

end Date

namespace Moment

/-- The point in time of a day, a time of day and a distance from universal time. -/
def make (date : Date) (hour minute second micro : Nat) (ahead : Option Int) :
    Except CalendarFault Moment :=
  if 24 ≤ hour then .error .hour
  else if 60 ≤ minute then .error .minute
  else if 60 ≤ second then .error .second
  else .ok ⟨date, hour, minute, second, micro, ahead⟩

/-- The distance from universal time, to the minute, or to the second if need be. -/
def printAhead (seconds : Int) : String :=
  let n := seconds.natAbs
  let base := (if seconds < 0 then "-" else "+") ++ padded 2 (n / 3600) ++ ":" ++
    padded 2 (n / 60 % 60)
  if n % 60 = 0 then base else base ++ ":" ++ padded 2 (n % 60)

/-- The written form, with a mark of choice between the day and the time of day. -/
def print (mark : Char) (t : Moment) : String :=
  t.date.print ++ mark.toString ++ padded 2 t.hour ++ ":" ++ padded 2 t.minute ++ ":" ++
    padded 2 t.second ++ (if t.micro = 0 then "" else "." ++ padded 6 t.micro) ++
    (t.ahead.map printAhead).getD ""

/-- The literal form.  Seconds and microseconds that are zero are left out at its end. -/
def literal (t : Moment) : String :=
  let tail :=
    if t.micro ≠ 0 then [t.second, t.micro] else if t.second ≠ 0 then [t.second] else []
  let zone := match t.ahead with
    | none => []
    | some 0 => ["tzinfo=datetime.timezone.utc"]
    | some s => ["tzinfo=datetime.timezone(" ++ spanLiteral s ++ ")"]
  let parts := (t.date.arguments ++ [t.hour, t.minute] ++ tail).map Nat.repr ++ zone
  "datetime.datetime(" ++ String.intercalate ", " parts ++ ")"

/-- Reads a distance from universal time. -/
def readAhead? (cs : List Char) : Option (Option Int) :=
  match cs with
  | [] => some none
  | sign :: rest => do
    guard (sign = '+' ∨ sign = '-')
    guard (rest.length = 5 ∨ (rest.length = 8 ∧ rest[5]? = some ':'))
    guard (rest[2]? = some ':')
    let hours ← digits? 2 (rest.take 2)
    let minutes ← digits? 2 ((rest.drop 3).take 2)
    let seconds ← if rest.length = 8 then digits? 2 (rest.drop 6) else some 0
    let n := Int.ofNat (hours * 3600 + minutes * 60 + seconds)
    pure (some (if sign = '-' then -n else n))

/-- Reads the written form. -/
def read? (cs : List Char) : Option Moment := do
  let date ← Date.read? (cs.take 10)
  let time := cs.drop 11
  guard (time[2]? = some ':' ∧ time[5]? = some ':')
  let hour ← digits? 2 (time.take 2)
  let minute ← digits? 2 ((time.drop 3).take 2)
  let second ← digits? 2 ((time.drop 6).take 2)
  let (micro, rest) ← match time.drop 8 with
    | '.' :: rest => do
      let fraction := rest.takeWhile isAsciiDigit
      let micro ← digits? 6 fraction
      pure (micro, rest.drop 6)
    | rest => pure (0, rest)
  let ahead ← readAhead? rest
  (make date hour minute second micro ahead).toOption

end Moment

end TableFeed
