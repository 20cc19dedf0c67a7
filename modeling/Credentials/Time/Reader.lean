import Credentials.Text.Blank
import Credentials.Text.Integer
import Credentials.Time.Instant

/-!
Reading instants. Documents hold RFC 3339 times, and also times without a zone, which mean UTC; the
command line takes a laxer form of RFC 3339. A reader gives what it read and the rest of the text.
-/

namespace Credentials.Time

open Text (decimal)

def number (least most : Nat) (s : List Char) : Option (Nat × List Char) :=
  let digits := (s.take most).takeWhile Char.isDigit
  if digits.length < least then none else some (decimal digits, s.drop digits.length)

def longNumber (s : List Char) : Option (Nat × List Char) :=
  let digits := s.takeWhile Char.isDigit
  if digits.isEmpty then none else some (decimal digits, s.drop digits.length)

def literal (c : Char) : List Char → Option (List Char)
  | d :: s => if c = d then some s else none
  | [] => none

/-- Decimals after a point as nanoseconds; what comes after nine of them is skipped. -/
def fraction : List Char → Option (Nat × List Char)
  | '.' :: s =>
    let digits := s.takeWhile Char.isDigit
    if digits.isEmpty then none
    else some (decimal ((digits ++ List.replicate 9 '0').take 9), s.drop digits.length)
  | s => some (0, s)

structure Reading where
  year : Int
  month : Nat
  day : Nat
  hour : Nat
  minute : Nat
  second : Nat
  nanos : Nat
  deriving DecidableEq, Repr

/-- The instant of a reading in a zone so many seconds ahead of UTC, if there is such a time.
Second 60 is the leap second after second 59. -/
def Reading.toInstant? (r : Reading) (offset : Int) : Option Instant :=
  let date : Date := ⟨r.year, r.month, r.day⟩
  if date.isValid ∧ -262143 ≤ r.year ∧ r.year ≤ 262142 ∧ r.hour < 24 ∧ r.minute < 60 ∧
      r.second ≤ 60 then
    let second := min r.second 59
    let wall := date.toDays * 86400 + ((r.hour * 3600 + r.minute * 60 + second : Nat) : Int)
    let t : Instant := ⟨wall - offset, r.nanos + (r.second - second) * 1000000000⟩
    if t.isRepresentable then some t else none
  else none

/-- A sign in front of an offset; the minus of mathematics counts too. -/
def offsetSign : List Char → Option (Int × List Char)
  | c :: s =>
    if c = '+' then some (1, s) else if c = '-' ∨ c.toNat = 0x2212 then some (-1, s) else none
  | [] => none

def offset (colon : List Char → Option (List Char)) (s : List Char) : Option (Int × List Char) :=
  match s with
  | 'Z' :: rest => some (0, rest)
  | 'z' :: rest => some (0, rest)
  | _ => do
    let (sign, s) ← offsetSign s
    let (hours, s) ← number 2 2 s
    let s ← colon s
    let (minutes, s) ← number 2 2 s
    if minutes < 60 then some (sign * ((hours * 3600 + minutes * 60 : Nat) : Int), s) else none

/-- RFC 3339 to the letter, but for a space allowed in the place of `T`. -/
def strict? (s : List Char) : Option Instant := do
  let (year, s) ← number 4 4 s
  let s ← literal '-' s
  let (month, s) ← number 2 2 s
  let s ← literal '-' s
  let (day, s) ← number 2 2 s
  let s ← (literal 'T' s).orElse fun _ => (literal 't' s).orElse fun _ => literal ' ' s
  let (hour, s) ← number 2 2 s
  let s ← literal ':' s
  let (minute, s) ← number 2 2 s
  let s ← literal ':' s
  let (second, s) ← number 2 2 s
  let (nanos, s) ← fraction s
  let (ahead, s) ← offset (literal ':') s
  if s.isEmpty ∧ ahead.natAbs < 86400 then
    Reading.toInstant? ⟨year, month, day, hour, minute, second, nanos⟩ ahead
  else none

def looseYear (s : List Char) : Option (Int × List Char) :=
  match Text.trimStart s with
  | '-' :: s => do let (n, s) ← longNumber s; some (-(n : Int), s)
  | '+' :: s => do let (n, s) ← longNumber s; some ((n : Int), s)
  | s => do let (n, s) ← number 1 4 s; some ((n : Int), s)

def looseNumber (s : List Char) : Option (Nat × List Char) := number 1 2 (Text.trimStart s)

def looseDate (gap : List Char → List Char) (s : List Char) :
    Option ((Int × Nat × Nat) × List Char) := do
  let (year, s) ← looseYear s
  let s ← literal '-' (gap s)
  let (month, s) ← looseNumber s
  let s ← literal '-' (gap s)
  let (day, s) ← looseNumber s
  some ((year, month, day), s)

def looseClock (gap : List Char → List Char) (s : List Char) :
    Option ((Nat × Nat × Nat × Nat) × List Char) := do
  let (hour, s) ← looseNumber s
  let s ← literal ':' (gap s)
  let (minute, s) ← looseNumber s
  let s ← literal ':' (gap s)
  let (second, s) ← looseNumber s
  let (nanos, s) ← fraction s
  some ((hour, minute, second, nanos), s)

def naive? (join : List Char → Option (List Char)) (s : List Char) : Option Instant := do
  let ((year, month, day), s) ← looseDate id s
  let s ← join s
  let ((hour, minute, second, nanos), s) ← looseClock id s
  if s.isEmpty then
    Reading.toInstant? ⟨year, month, day, hour, minute, second, nanos⟩ 0
  else none

/-- The times a document may hold, in the order in which the forms are tried: with a zone, without
one after a `T`, without one after white space. -/
def Instant.ofText? (s : List Char) : Option Instant :=
  (strict? s).orElse fun _ =>
    (naive? (literal 'T') s).orElse fun _ => naive? (some ∘ Text.trimStart) s

def skipColons (s : List Char) : Option (List Char) :=
  some (s.dropWhile fun c => c == ':' || Text.isBlank c)

def laxZone (s : List Char) : Option (Int × List Char) :=
  if (s.take 3).map Char.toUpper = ['U', 'T', 'C'] then some (0, s.drop 3)
  else offset skipColons s

/-- RFC 3339 with white space between its parts and digits left out; a zone is required. -/
def Instant.ofLaxText? (s : List Char) : Option Instant := do
  let ((year, month, day), s) ← looseDate Text.trimStart s
  let s ← (literal 'T' s).orElse fun _ => (literal 't' s).orElse fun _ => literal ' ' s
  let ((hour, minute, second, nanos), s) ← looseClock Text.trimStart s
  let (ahead, s) ← laxZone (Text.trimStart s)
  if (Text.trimStart s).isEmpty ∧ ahead.natAbs < 86400 then
    Reading.toInstant? ⟨year, month, day, hour, minute, second, nanos⟩ ahead
  else none

end Credentials.Time
