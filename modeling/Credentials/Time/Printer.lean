import Credentials.Time.Instant

/-!
Instants as text, always in UTC.
-/

namespace Credentials.Time

def padded (width n : Nat) : List Char :=
  let digits := Nat.toDigits 10 n
  List.replicate (width - digits.length) '0' ++ digits

/-- Four digits; years that need more, or lie before year zero, carry a sign. -/
def yearText (year : Int) : List Char :=
  if 0 ≤ year ∧ year ≤ 9999 then padded 4 year.toNat
  else (if year < 0 then '-' else '+') :: padded 4 year.natAbs

def dateText (d : Date) : List Char :=
  yearText d.year ++ '-' :: padded 2 d.month ++ '-' :: padded 2 d.day

namespace Instant

/-- Hour, minute and second; a leap second is second 60. -/
def clockText (t : Instant) : List Char :=
  let s := t.secondOfDay
  let second := s % 60 + t.nanos / 1000000000
  padded 2 (s / 3600) ++ ':' :: padded 2 (s / 60 % 60) ++ ':' :: padded 2 second

def dateTimeText (t : Instant) : List Char := dateText t.date ++ 'T' :: t.clockText

def text (t : Instant) : List Char :=
  t.dateTimeText ++ '.' :: padded 6 (t.nanos % 1000000000 / 1000) ++ ['Z']

/-- As many decimals, in threes, as there is something to show. -/
def shortText (t : Instant) : List Char :=
  let n := t.nanos % 1000000000
  let fraction :=
    if n = 0 then []
    else if n % 1000000 = 0 then '.' :: padded 3 (n / 1000000)
    else if n % 1000 = 0 then '.' :: padded 6 (n / 1000)
    else '.' :: padded 9 n
  t.dateTimeText ++ fraction ++ ['Z']

def plainText (t : Instant) : String :=
  String.ofList (dateText t.date ++ ' ' :: t.clockText ++ " UTC".toList)

end Instant

end Credentials.Time
