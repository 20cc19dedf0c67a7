import Credentials.Time.Calendar

/-!
Points in time: seconds since 1970-01-01 00:00:00 UTC and nanoseconds. In a leap second the
nanoseconds run on past a billion.
-/

namespace Credentials.Time

/-- A stretch of time in nanoseconds, backward if it is negative. -/
structure Duration where
  nanos : Int
  deriving DecidableEq, Repr

def Duration.ofSeconds (seconds : Int) : Duration := ⟨seconds * 1000000000⟩

structure Instant where
  seconds : Int
  nanos : Nat
  deriving DecidableEq, Repr

namespace Instant

/-- Whether one instant comes before another; a leap second belongs to the second before it. -/
def before (a b : Instant) : Bool :=
  a.seconds < b.seconds || (a.seconds == b.seconds && a.nanos < b.nanos)

/-- The first instant of the calendar, -262143-01-01. -/
def first : Instant := ⟨-8334601228800, 0⟩

/-- The last instant of the calendar, +262142-12-31. -/
def last : Instant := ⟨8210266876799, 999999999⟩

def isRepresentable (t : Instant) : Bool :=
  first.seconds ≤ t.seconds && t.seconds ≤ last.seconds

def ofNanos (nanos : Int) : Instant :=
  ⟨nanos / 1000000000, (nanos % 1000000000).toNat⟩

/-- A move that does not leave the leap second it starts in stays in it. Out of it, a move forward
counts from the second before it and a move back from the second after it. -/
def shift (t : Instant) (d : Duration) : Instant :=
  let nanos := t.nanos + d.nanos
  if t.nanos < 1000000000 ∨ nanos < 1000000000 then .ofNanos (t.seconds * 1000000000 + nanos)
  else if nanos < 2000000000 then ⟨t.seconds, nanos.toNat⟩
  else .ofNanos ((t.seconds - 1) * 1000000000 + nanos)

theorem shift_ofNanos (nanos : Int) (d : Duration) :
    (ofNanos nanos).shift d = ofNanos (nanos + d.nanos) := by
  have hsubsecond : (ofNanos nanos).nanos < 1000000000 := by
    simp only [ofNanos]
    omega
  have hsum : nanos / 1000000000 * 1000000000 +
      (((nanos % 1000000000).toNat : Int) + d.nanos) = nanos + d.nanos := by omega
  rw [shift, if_pos (.inl hsubsecond)]
  exact congrArg ofNanos hsum

-- half a second into the leap second at the end of 2016
example :
    let leap : Instant := ⟨1483228799, 1500000000⟩
    leap.shift ⟨250000000⟩ = ⟨1483228799, 1750000000⟩ ∧
      leap.shift ⟨500000000⟩ = ⟨1483228800, 0⟩ ∧
      leap.shift ⟨-750000000⟩ = ⟨1483228799, 750000000⟩ ∧
      leap.shift (.ofSeconds 1) = ⟨1483228800, 500000000⟩ ∧
      leap.shift (.ofSeconds (-1)) = ⟨1483228799, 500000000⟩ := by
  decide

/-- Any move out of the calendar ends at its end. -/
def shiftWithin (t : Instant) (d : Duration) : Instant :=
  let u := t.shift d
  if u.isRepresentable then u else last

def toMicros (t : Instant) : Instant := ⟨t.seconds, t.nanos / 1000 * 1000⟩

def date (t : Instant) : Date := Date.ofDays (t.seconds / 86400)

/-- The second of the day, the second before it in a leap second. -/
def secondOfDay (t : Instant) : Nat := (t.seconds % 86400).toNat

end Instant

end Credentials.Time
