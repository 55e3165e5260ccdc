/-
  Dates of the Gregorian calendar and times of day, as they are written. A date or a time exists by
  its type. Times know no zone; the sixtieth second is that of a leap second.
-/

namespace RecordDesk.Calendar

/-- A year of 366 days. -/
def isLeap (year : Int) : Bool := year % 4 == 0 && (year % 100 != 0 || year % 400 == 0)

/-- The days of a month; none for a month that does not exist. -/
def daysIn (year : Int) (month : Nat) : Nat :=
  if month = 2 then (if isLeap year then 29 else 28)
  else if month = 4 ∨ month = 6 ∨ month = 9 ∨ month = 11 then 30
  else if 1 ≤ month ∧ month ≤ 12 then 31
  else 0

/-- The years that are kept. -/
def isYear (year : Int) : Bool := -262143 ≤ year && year ≤ 262142

/-- There is such a day. -/
def isDay (year : Int) (month day : Nat) : Bool :=
  isYear year && 1 ≤ day && day ≤ daysIn year month

/-- There is such a time of day. -/
def isTime (hour minute second : Nat) : Bool := hour < 24 && minute < 60 && second ≤ 60

/-- A day of the calendar. -/
structure Date where
  year : Int
  month : Nat
  day : Nat
  isReal : isDay year month day

/-- A second of a day. -/
structure Moment where
  date : Date
  hour : Nat
  minute : Nat
  second : Nat
  isReal : isTime hour minute second

/-- The day of a year, month and day. -/
def Date.of? (year : Int) (month day : Nat) : Option Date :=
  if h : isDay year month day then some ⟨year, month, day, h⟩ else none

/-- The second of a day. -/
def Moment.of? (date : Date) (hour minute second : Nat) : Option Moment :=
  if h : isTime hour minute second then some ⟨date, hour, minute, second, h⟩ else none

/-! ## Writing -/

/-- A number with zeros in front up to a width. -/
def padded (width n : Nat) : String :=
  let digits := toString n
  String.ofList (List.replicate (width - digits.length) '0') ++ digits

/-- A year in four digits; one before the year 0 or after 9999 has a sign. -/
def yearText (year : Int) : String :=
  (if year < 0 then "-" else if 9999 < year then "+" else "") ++ padded 4 year.natAbs

/-- A date as people read it, largest part first. -/
def Date.display (d : Date) : String :=
  yearText d.year ++ "/" ++ padded 2 d.month ++ "/" ++ padded 2 d.day

/-- A moment as people read it. -/
def Moment.display (m : Moment) : String :=
  m.date.display ++ " " ++ padded 2 m.hour ++ ":" ++ padded 2 m.minute ++ ":" ++ padded 2 m.second

end RecordDesk.Calendar
