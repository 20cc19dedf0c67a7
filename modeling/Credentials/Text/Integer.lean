/-!
Integers written in decimal digits.
-/

namespace Credentials.Text

def decimal (digits : List Char) : Nat := digits.foldl (fun n c => 10 * n + (c.toNat - 48)) 0

/-- Whether an integer fits 64 bits together with its sign. -/
def fits64 (v : Int) : Bool := -9223372036854775808 ≤ v && v ≤ 9223372036854775807

def integer64? (s : List Char) : Option Int :=
  let (negative, digits) := match s with
    | '-' :: t => (true, t)
    | '+' :: t => (false, t)
    | t => (false, t)
  if digits.isEmpty || !digits.all Char.isDigit then none
  else
    let n := decimal digits
    let v : Int := if negative then -(n : Int) else n
    if fits64 v then some v else none

end Credentials.Text
