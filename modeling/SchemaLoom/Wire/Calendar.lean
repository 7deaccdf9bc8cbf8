/-!
# The calendar

Dates of the Gregorian calendar, extended backwards without limit, and their day numbers
counted from the first of January of the year zero.
-/
namespace SchemaLoom

structure Date where
  year : Int
  month : Nat
  day : Nat
deriving DecidableEq, Repr

namespace Date

def isLeap (year : Int) : Bool := year % 4 = 0 && (year % 100 ≠ 0 || year % 400 = 0)

def monthLengths (year : Int) : List Nat :=
  [31, if isLeap year then 29 else 28, 31, 30, 31, 30, 31, 31, 30, 31, 30, 31]

def isValid (d : Date) : Bool :=
  1 ≤ d.month && d.month ≤ 12 && 1 ≤ d.day
    && d.day ≤ (monthLengths d.year).getD (d.month - 1) 0

/-- Days before the first of January. -/
def daysBeforeYear (year : Int) : Int :=
  365 * year + (year + 3) / 4 - (year + 99) / 100 + (year + 399) / 400

/-- Days of the year before the first of a month. -/
def daysBeforeMonth (year : Int) (month : Nat) : Nat :=
  ((monthLengths year).take (month - 1)).foldl (· + ·) 0

def dayNumber (d : Date) : Int :=
  daysBeforeYear d.year + daysBeforeMonth d.year d.month + (d.day - 1)

/-- The year a day falls in: an estimate from the mean length of a year, put right by one. -/
def yearOfDay (n : Int) : Int :=
  let estimate := n * 400 / 146097
  if daysBeforeYear (estimate + 1) ≤ n then estimate + 1
  else if n < daysBeforeYear estimate then estimate - 1
  else estimate

/-- Month and day, both from one, of the day `n` of a year whose months from `month` on have
the given lengths. -/
def monthAndDay (month n : Nat) : List Nat → Nat × Nat
  | [] => (month, n + 1)
  | length :: rest =>
    if n < length then (month, n + 1) else monthAndDay (month + 1) (n - length) rest

def ofDayNumber (n : Int) : Date :=
  let year := yearOfDay n
  let (month, day) := monthAndDay 1 (n - daysBeforeYear year).toNat (monthLengths year)
  ⟨year, month, day⟩

end Date
end SchemaLoom
