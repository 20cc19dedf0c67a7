import Credentials.Decoding.Mismatch

/-!
A tree as a reader of some format leaves it, to be taken for a typed value. Where the text stops
being of its format the tree is marked, so that faults are met in the order of the text.
-/

namespace Credentials.Decoding

inductive Node where
  | null
  | boolean (b : Bool)
  | integer (n : Int)
  | float (shown : String)
  | text (s : String)
  /-- Items, and whether the end of the sequence followed them. -/
  | sequence (items : List Node) (closed : Bool)
  /-- Members, and whether the end of the map followed them. -/
  | map (members : List (String × Node)) (closed : Bool)
  /-- A map with a name that has no content, and the members before that name. It can be passed over
  all the same. -/
  | misnamed (members : List (String × Node))
  /-- A value that can be passed over but has no content to use. -/
  | unusable
  | broken

namespace Node

mutual

def isWhole : Node → Bool
  | sequence items closed => closed && areWhole items
  | map members closed => closed && membersAreWhole members
  | broken => false
  | _ => true

def areWhole : List Node → Bool
  | [] => true
  | v :: vs => isWhole v && areWhole vs

def membersAreWhole : List (String × Node) → Bool
  | [] => true
  | (_, v) :: ms => isWhole v && membersAreWhole ms

end

def found? : Node → Option Found
  | null => some .null
  | boolean b => some (.boolean b)
  | integer n => some (.integer n)
  | float shown => some (.float shown)
  | text s => some (.text s)
  | sequence _ _ => some .sequence
  | map _ _ => some .map
  | misnamed _ => some .map
  | unusable => none
  | broken => none

def mismatch (node : Node) (expected : String) : Mismatch :=
  match node.found? with
  | some found => .invalidType found expected
  | none => .malformed

end Node

end Credentials.Decoding
