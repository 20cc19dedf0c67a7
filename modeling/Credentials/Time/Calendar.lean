/-!
The proleptic Gregorian calendar: dates, and days counted from 1970-01-01.
-/

namespace Credentials.Time

def isLeap (year : Int) : Bool := year % 4 == 0 && (year % 100 != 0 || year % 400 == 0)

def monthLengths (year : Int) : List Nat :=
  [31, if isLeap year then 29 else 28, 31, 30, 31, 30, 31, 31, 30, 31, 30, 31]

structure Date where
  year : Int
  month : Nat
  day : Nat
  deriving DecidableEq, Repr

def Date.isValid (d : Date) : Bool :=
  1 ≤ d.month && d.month ≤ 12 && 1 ≤ d.day && d.day ≤ (monthLengths d.year).getD (d.month - 1) 0

/-- Days from 0001-01-01 to the first day of a year. -/
def daysBeforeYear (year : Int) : Int :=
  let y := year - 1
  365 * y + y / 4 - y / 100 + y / 400

/-- The day number of 1970-01-01, counted from 0001-01-01. -/
def epoch : Int := 719162

def daysBeforeMonth (year : Int) (month : Nat) : Nat :=
  ((monthLengths year).take (month - 1)).foldl (· + ·) 0

def Date.toDays (d : Date) : Int :=
  daysBeforeYear d.year + daysBeforeMonth d.year d.month + d.day - 1 - epoch

/-- The year that a day falls in, and the days before it in that year. Days count from 0001-01-01.
A century or a year that would be the fifth of its group is the last day of the fourth. -/
def yearOfDay (day : Int) : Int × Nat :=
  let quad := day / 146097
  let r := (day % 146097).toNat
  let century := min (r / 36524) 3
  let r := r - 36524 * century
  let four := r / 1461
  let r := r % 1461
  let one := min (r / 365) 3
  (400 * quad + ((100 * century + 4 * four + one : Nat) : Int) + 1, r - 365 * one)

def monthOfDay (month : Nat) (day : Nat) : List Nat → Nat × Nat
  | [] => (month, day)
  | length :: rest =>
    if day < length then (month, day) else monthOfDay (month + 1) (day - length) rest

def Date.ofDays (days : Int) : Date :=
  let (year, r) := yearOfDay (days + epoch)
  let (month, day) := monthOfDay 1 r (monthLengths year)
  ⟨year, month, day + 1⟩

end Credentials.Time
