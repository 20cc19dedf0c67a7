import Credentials.Decimal.FloatText
import Credentials.Decoding.Node

/-!
TOML values as a tree. The members of a table stand in the order of their keys.
-/

namespace Credentials.Toml

inductive Tree where
  | text (s : String)
  | integer (n : Int)
  | float (x : Float)
  | boolean (b : Bool)
  /-- A date, a time of day or both, in the form in which they are written out. -/
  | time (shown : String)
  | array (items : List Tree)
  | table (members : List (String × Tree))

namespace Tree

def isTable : Tree → Bool
  | table _ => true
  | _ => false

end Tree

abbrev Members := List (String × Tree)

/-- Sets the value of a key, keeping the order of the keys. -/
def Members.insert (key : String) (value : Tree) : Members → Members
  | [] => [(key, value)]
  | (k, v) :: rest =>
    if key = k then (key, value) :: rest
    else if key < k then (key, value) :: (k, v) :: rest
    else (k, v) :: insert key value rest

namespace Tree

mutual

/-- A value as what a typed value is taken from. Times count as texts. -/
def toNode : Tree → Decoding.Node
  | text s => .text s
  | integer n => .integer n
  | float x => .float (Decimal.floatText .positional x)
  | boolean b => .boolean b
  | time shown => .text shown
  | array items => .sequence (toNodes items) true
  | table members => .map (memberNodes members) true

def toNodes : List Tree → List Decoding.Node
  | [] => []
  | v :: vs => toNode v :: toNodes vs

def memberNodes : List (String × Tree) → List (String × Decoding.Node)
  | [] => []
  | (k, v) :: ms => (k, toNode v) :: memberNodes ms

end

end Tree

end Credentials.Toml
