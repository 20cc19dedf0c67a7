import Credentials.Decimal.Shortest

/-!
Floating-point numbers as text. What differs between the forms is where positional notation ends,
whether a positive exponent carries a sign, and the name of what is not a number.
-/

namespace Credentials.Decimal

structure Form where
  /-- Positional from this power of ten on, for a leading digit in that place. -/
  leastPlace : Int
  /-- Exponents from here on are written. -/
  pastPlace : Int
  plus : Bool

def Form.message : Form := ⟨-5, 16, true⟩

def Form.value : Form := ⟨-4, 16, false⟩

/-- Positional notation throughout; no double lies outside these places. -/
def Form.positional : Form := ⟨-400, 400, false⟩

def positionalText (digits : List Char) (exponent : Int) : List Char :=
  let place := digits.length + exponent
  if 0 ≤ exponent then digits ++ List.replicate exponent.toNat '0' ++ ['.', '0']
  else if 0 < place then digits.take place.toNat ++ '.' :: digits.drop place.toNat
  else ['0', '.'] ++ List.replicate (-place).toNat '0' ++ digits

def exponentText (plus : Bool) (digits : List Char) (exponent : Int) : List Char :=
  let e := exponent + digits.length - 1
  let mantissa := match digits with
    | [d] => [d]
    | d :: ds => d :: '.' :: ds
    | [] => ['0']
  let sign := if e < 0 then ['-'] else if plus then ['+'] else []
  mantissa ++ 'e' :: sign ++ Nat.toDigits 10 e.natAbs

def magnitudeText (form : Form) (x : Float) : List Char :=
  if x == 0 then ['0', '.', '0']
  else
    let d := shortest x
    let digits := Nat.toDigits 10 d.digits
    let lead := d.exponent + digits.length - 1
    if form.leastPlace ≤ lead ∧ lead < form.pastPlace then positionalText digits d.exponent
    else exponentText form.plus digits d.exponent

/-- A number with its sign, zero's sign included. -/
def floatText (form : Form) (x : Float) : String :=
  if x.isNaN then "NaN"
  else
    let sign := if x.toBits >>> 63 == 1 then ['-'] else []
    let body := if x.isInf then "inf".toList else magnitudeText form x.abs
    String.ofList (sign ++ body)

end Credentials.Decimal
