import Credentials.Text.Blank
import Std.Data.HashMap

/-!
Character data. An entry `a-b/s=x+y` speaks of the code points from `a` to `b` in
steps of `s`, all in hexadecimal, and may give what they map to; a single target moves along with
its code point.
-/

namespace Credentials.Text

structure Span where
  first : Nat
  last : Nat
  step : Nat
  image : List Nat

namespace Span

def digit (c : Char) : Nat :=
  if c.isDigit then c.toNat - '0'.toNat else c.toNat - 'a'.toNat + 10

def number (s : List Char) : Nat := s.foldl (fun n c => 16 * n + digit c) 0

/-- Reads one entry; a missing end is the start and a missing step is one. -/
def ofText (s : List Char) : Span :=
  let sides := fields '=' s
  let source := fields '/' (sides.headD [])
  let ends := (fields '-' (source.headD [])).map number
  let first := ends.headD 0
  { first
    last := ends.getD 1 first
    step := ((source[1]?).map number).getD 1
    image := match sides[1]? with
      | none => []
      | some t => (fields '+' t).map number }

def spans (entries : List String) : List Span := entries.map fun entry => ofText entry.toList

def entries (e : Span) : List (Nat × List Nat) :=
  (List.range ((e.last - e.first) / e.step + 1)).map fun i =>
    (e.first + i * e.step, match e.image with
      | [x] => [x + i * e.step]
      | xs => xs)

def contains (e : Span) (n : Nat) : Bool := e.first ≤ n && n ≤ e.last

end Span

def tableOf (data : List String) : Std.HashMap Nat (List Nat) :=
  (Span.spans data).foldl (fun t e => t.insertMany e.entries) ∅

end Credentials.Text
