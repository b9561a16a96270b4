/-!
# Dates and times of a settings file

A date-time value of a settings file has a date, a time of day, or both, and a time with a
date may carry an offset from universal time. Its text is the date as `YYYY-MM-DD`, a `T`
before the time, the time as `hh:mm:ss` with the nonzero fraction of the second after a point
(trailing zeros dropped), and the offset as `Z` or as a sign with `hh:mm`.
-/

namespace SwiftDevEnv.Toml

/-- A calendar date. -/
structure Date where
  year : Nat
  month : Nat
  day : Nat
  deriving DecidableEq, Repr, Inhabited

/-- A time of day, to the nanosecond. -/
structure Time where
  hour : Nat
  minute : Nat
  second : Nat
  nanosecond : Nat
  deriving DecidableEq, Repr, Inhabited

/-- The offset of a time from universal time. -/
inductive Offset where
  | utc
  | minutes (m : Int)
  deriving DecidableEq, Repr, Inhabited

/-- A date, a time, or both, with an optional offset. -/
structure Datetime where
  date : Option Date
  time : Option Time
  offset : Option Offset
  deriving DecidableEq, Repr, Inhabited

/-- The decimal digits of `n`, padded with zeros on the left to `width`. -/
def padded (width n : Nat) : String :=
  let s := toString n
  String.ofList (List.replicate (width - s.length) '0') ++ s

/-- The text of a date. -/
def Date.text (d : Date) : String :=
  padded 4 d.year ++ "-" ++ padded 2 d.month ++ "-" ++ padded 2 d.day

/-- The text of a time; a nonzero fraction is written without its trailing zeros. -/
def Time.text (t : Time) : String :=
  let whole := padded 2 t.hour ++ ":" ++ padded 2 t.minute ++ ":" ++ padded 2 t.second
  if t.nanosecond = 0 then whole
  else
    let digits := (padded 9 t.nanosecond).toList
    whole ++ "." ++ String.ofList (digits.reverse.dropWhile (· = '0')).reverse

/-- The text of an offset. -/
def Offset.text : Offset → String
  | .utc => "Z"
  | .minutes m =>
    let sign := if m < 0 then "-" else "+"
    let n := m.natAbs
    sign ++ padded 2 (n / 60) ++ ":" ++ padded 2 (n % 60)

/-- The text of a date-time. -/
def Datetime.text (d : Datetime) : String :=
  let date := (d.date.map Date.text).getD ""
  let sep := if d.date.isSome && d.time.isSome then "T" else ""
  let time := (d.time.map Time.text).getD ""
  date ++ sep ++ time ++ ((d.offset.map Offset.text).getD "")

/-- Whether `year` is a leap year of the Gregorian calendar. -/
def isLeapYear (year : Nat) : Bool :=
  year % 4 == 0 && (year % 100 != 0 || year % 400 == 0)

/-- The number of days of a month of a year. -/
def daysInMonth (year month : Nat) : Nat :=
  if month = 2 then (if isLeapYear year then 29 else 28)
  else if month = 4 || month = 6 || month = 9 || month = 11 then 30
  else 31

example : padded 4 7 = "0007" := by decide
example : (Time.mk 7 32 0 500000000).text = "07:32:00.5" := by decide

end SwiftDevEnv.Toml
