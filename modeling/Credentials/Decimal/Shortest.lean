/-!
The shortest decimal that reads back as a given floating-point number.
-/

namespace Credentials.Decimal

/-- The number `digits · 10 ^ exponent`. -/
structure Digits where
  digits : Nat
  exponent : Int
  deriving DecidableEq, Repr

/-- A positive number `mantissa · 2 ^ exponent` with the reals that round to it: those between
`(4 · mantissa - below) · 2 ^ (exponent - 2)` and `(4 · mantissa + 2) · 2 ^ (exponent - 2)`, ends
included for an even mantissa. -/
structure Binary where
  mantissa : Nat
  exponent : Int
  below : Nat

def mantissas : Nat := 4503599627370496

/-- The parts of the bits of a finite positive double. The gap below a power of two is half as wide
as the gap above it, the least exponent apart. -/
def Binary.ofBits (bits : Nat) : Binary :=
  let field : Nat := bits / mantissas % 2048
  let low : Nat := bits % mantissas
  if field = 0 then ⟨low, -1074, 2⟩
  else
    { mantissa := mantissas + low
      exponent := (field : Int) - 1075
      below := if low = 0 ∧ 1 < field then 1 else 2 }

/-- Numerator and denominator of a number of quarter units in the last binary place, divided by
`10 ^ place`. -/
def Binary.scaled (b : Binary) (quarters : Nat) (place : Int) : Nat × Nat :=
  let e := b.exponent - 2
  let num := quarters * Nat.pow 2 e.toNat * Nat.pow 10 (-place).toNat
  let den := Nat.pow 2 (-e).toNat * Nat.pow 10 place.toNat
  (num, den)

def Binary.admits (b : Binary) (digits : Nat) (place : Int) : Bool :=
  let (low, den) := b.scaled (4 * b.mantissa - b.below) place
  let (high, _) := b.scaled (4 * b.mantissa + 2) place
  let x := digits * den
  if b.mantissa % 2 = 0 then low ≤ x && x ≤ high else low < x && x < high

/-- The neighbour on the grid of a decimal place that is nearest and reads back; of two at the same
distance the even one. -/
def Binary.nearest? (b : Binary) (place : Int) : Option Nat :=
  let (num, den) := b.scaled (4 * b.mantissa) place
  let down := num / den
  let rest := num % den
  let first := if 2 * rest < den ∨ (2 * rest = den ∧ down % 2 = 0) then down else down + 1
  let second := if first = down then down + 1 else down
  if b.admits first place then some first
  else if b.admits second place then some second
  else none

def Binary.search (b : Binary) : Nat → Int → Digits
  | 0, place => ⟨0, place⟩
  | fuel + 1, place =>
    match b.nearest? place with
    -- zero may read back too, but it has no digits
    | some digits => if digits = 0 then b.search fuel (place - 1) else ⟨digits, place⟩
    | none => b.search fuel (place - 1)

def Digits.strip (d : Digits) : Nat → Digits
  | 0 => d
  | fuel + 1 =>
    if d.digits % 10 = 0 ∧ d.digits ≠ 0 then strip ⟨d.digits / 10, d.exponent + 1⟩ fuel else d

def shortest (x : Float) : Digits :=
  let b := Binary.ofBits x.toBits.toNat
  -- a place at which the number is below one, found from its binary magnitude
  let magnitude := b.exponent + (Nat.log2 b.mantissa : Int) + 1
  let top := magnitude * 30103 / 100000 + 1
  (b.search 800 top).strip 20

end Credentials.Decimal
