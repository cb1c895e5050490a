/-!
Dates and times of day without a time zone, as file names carry them.
-/

namespace DiagramStudio

/-- A date and a time of day. -/
structure Timestamp where
  year : Int
  month : Nat
  day : Nat
  hour : Nat
  minute : Nat
  /-- Sixty in a leap second. -/
  second : Nat
deriving Repr, DecidableEq

namespace Timestamp

def isLeapYear (year : Int) : Bool :=
  year % 4 == 0 && (year % 100 != 0 || year % 400 == 0)

/-- How many days the month has; months are counted from one. -/
def monthLength (year : Int) (month : Nat) : Nat :=
  if month = 2 then if isLeapYear year then 29 else 28
  else if month = 4 ∨ month = 6 ∨ month = 9 ∨ month = 11 then 30
  else 31

/-- The years that a date can have. -/
def firstYear : Int := -262143
def lastYear : Int := 262142

/-- The nanoseconds of a second; a leap second counts on. -/
def secondLength : Nat := 1000000000

/-- The time with the given parts, if there is one. Nanoseconds beyond a second are those of a leap
    second, which follows second 59 only. -/
def ofFields? (year : Int) (month day hour minute second nanosecond : Nat) : Option Timestamp :=
  if firstYear ≤ year ∧ year ≤ lastYear ∧ 1 ≤ month ∧ month ≤ 12 ∧ 1 ≤ day ∧
      day ≤ monthLength year month ∧ hour < 24 ∧ minute < 60 ∧ second < 60 then
    if nanosecond < secondLength then some ⟨year, month, day, hour, minute, second⟩
    else if nanosecond < 2 * secondLength ∧ second = 59 then
      some ⟨year, month, day, hour, minute, 60⟩
    else none
  else none

/-- The number in decimal, with zeros in front up to `width` digits. -/
def padded (width n : Nat) : List Char :=
  let ds := Nat.toDigits 10 n
  List.replicate (width - ds.length) '0' ++ ds

/-- A year with at least four digits, and with its sign where it has more than four or is
    negative. -/
def yearText (year : Int) : List Char :=
  if year < 0 then '-' :: padded 4 year.natAbs
  else if 9999 < year then '+' :: padded 4 year.natAbs
  else padded 4 year.natAbs

/-- Date and time as digits, with a hyphen between them. -/
def compact (t : Timestamp) : List Char :=
  yearText t.year ++ padded 2 t.month ++ padded 2 t.day ++
    '-' :: (padded 2 t.hour ++ padded 2 t.minute ++ padded 2 t.second)

end Timestamp

end DiagramStudio
