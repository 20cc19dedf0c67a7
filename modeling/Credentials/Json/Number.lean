import Credentials.Decoding.Node
import Credentials.Text.Integer

/-!
JSON numbers: as written, and as what they are taken for.
-/

namespace Credentials.Json

structure Numeral where
  negative : Bool
  whole : List Char
  fraction : Option (List Char)
  /-- Whether the exponent is negative, and its digits. -/
  exponent : Option (Bool × List Char)
  deriving DecidableEq, Repr

def largestNatural : Nat := UInt64.size - 1

/-- Digits taken in while their value fits 64 bits: the value, and how many were taken. -/
def significand (value taken : Nat) : List Char → Nat × Nat
  | [] => (value, taken)
  | c :: cs =>
    let next := value * 10 + (c.toNat - 48)
    if largestNatural < next then (value, taken) else significand next (taken + 1) cs

/-- Scales by a power of ten, in steps that stay within the range of a double. There is no result
past that range. -/
def scale : Nat → Float → Int → Option Float
  | 0, x, _ => some x
  | fuel + 1, x, exponent =>
    if exponent.natAbs ≤ 308 then
      if 0 ≤ exponent then
        let y := x * Float.ofScientific 1 false exponent.toNat
        if y.isInf then none else some y
      else some (x / Float.ofScientific 1 false exponent.natAbs)
    else if x == 0 then some x
    else if 0 ≤ exponent then none
    else scale fuel (x / Float.ofScientific 1 false 308) (exponent + 308)

def Numeral.exponentValue (n : Numeral) : Int :=
  match n.exponent with
  | none => 0
  | some (isNegative, digits) =>
    let e : Nat := digits.foldl (fun v c => v * 10 + (c.toNat - 48)) 0
    let e : Nat := min e 2147483647
    if isNegative then -(e : Int) else e

def Numeral.float? (n : Numeral) : Option Float :=
  let (head, taken) := significand 0 0 n.whole
  let dropped := n.whole.length - taken
  let (value, decimals) :=
    if dropped = 0 then significand head 0 (n.fraction.getD []) else
      -- no further digit fits
      (head, 0)
  let power := (dropped : Int) - decimals + n.exponentValue
  let magnitude := scale 8 (Float.ofNat value) (max power (-3000))
  magnitude.map fun x => if n.negative then -x else x

def shownFloat (x : Float) : Decoding.Node := .float (Decimal.floatText .message x)

/-- What a number is taken for: an integer if it is written as one and fits 64 bits, else a
floating-point number, as is zero with a minus sign. Past the range of those there is no value. -/
def Numeral.toNode (n : Numeral) : Decoding.Node :=
  let whole := n.whole.foldl (fun v c => v * 10 + (c.toNat - 48)) 0
  if n.fraction.isSome ∨ n.exponent.isSome ∨ largestNatural < whole then
    match n.float? with
    | some x => shownFloat x
    | none => .unusable
  else if !n.negative then .integer whole
  else if whole = 0 then shownFloat (-0.0)
  else if Text.fits64 (-(whole : Int)) then .integer (-(whole : Int))
  else shownFloat (-(Float.ofNat whole))

end Credentials.Json
