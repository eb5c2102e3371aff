/-! Dates of the proleptic Gregorian calendar. Years are counted through zero, and they are limited
to a range of 2^19 around it. -/
namespace BuildController

/-- Every fourth year is a leap year, except centuries that 400 does not divide. -/
def isLeapYear (year : Int) : Bool := year % 4 = 0 && (year % 100 ≠ 0 || year % 400 = 0)

def daysOfMonth (year : Int) (month : Nat) : Nat :=
  match month with
  | 2 => if isLeapYear year then 29 else 28
  | 4 | 6 | 9 | 11 => 30
  | _ => 31

/-- The first and the last year that a date can have. -/
def firstYear : Int := -262143

def lastYear : Int := 262142

/-- A day of the calendar. -/
structure Date where
  year : Int
  month : Nat
  day : Nat
  year_range : firstYear ≤ year ∧ year ≤ lastYear
  month_range : 1 ≤ month ∧ month ≤ 12
  day_range : 1 ≤ day ∧ day ≤ daysOfMonth year month
  deriving DecidableEq, Repr

namespace Date

def ofParts? (year : Int) (month day : Nat) : Option Date :=
  if h : (firstYear ≤ year ∧ year ≤ lastYear) ∧ (1 ≤ month ∧ month ≤ 12)
      ∧ (1 ≤ day ∧ day ≤ daysOfMonth year month) then
    some ⟨year, month, day, h.1, h.2.1, h.2.2⟩
  else none

def next? (d : Date) : Option Date :=
  if d.day < daysOfMonth d.year d.month then ofParts? d.year d.month (d.day + 1)
  else if d.month < 12 then ofParts? d.year (d.month + 1) 1
  else ofParts? (d.year + 1) 1 1

def previous? (d : Date) : Option Date :=
  if 1 < d.day then ofParts? d.year d.month (d.day - 1)
  else if 1 < d.month then ofParts? d.year (d.month - 1) (daysOfMonth d.year (d.month - 1))
  else ofParts? (d.year - 1) 12 31

end Date

end BuildController
