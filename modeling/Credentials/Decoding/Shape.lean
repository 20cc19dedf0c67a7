import Credentials.Decoding.Node

/-!
Taking a tree for a typed value. Faults are met in the order of the tree; members with unknown
names are passed over, but have to be whole.
-/

namespace Credentials.Decoding

abbrev Decode (α : Type) := Node → Except Mismatch α

def text : Decode String
  | .text s => .ok s
  | node => .error (node.mismatch "a string")

def path : Decode String
  | .text s => .ok s
  | node => .error (node.mismatch "path string")

def boolean : Decode Bool
  | .boolean b => .ok b
  | node => .error (node.mismatch "a boolean")

def natural64 : Decode UInt64
  | .integer n =>
    if n < 0 then .error (.invalidValue (.integer n) "u64")
    else if n.toNat < UInt64.size then .ok (UInt64.ofNat n.toNat)
    else .error (.invalidType (.integer n) "u64")
  | node => .error (node.mismatch "u64")

def unit : Decode Unit
  | .null => .ok ()
  | node => .error (node.mismatch "unit")

def optional {α : Type} (decode : Decode α) : Decode (Option α)
  | .null => .ok none
  | node => (decode node).map some

def sequence {α : Type} (decode : Decode α) : Decode (List α)
  | .sequence items closed => do
    let values ← items.mapM decode
    if closed then return values else throw .malformed
  | node => .error (node.mismatch "a sequence")

def once {α : Type} (name : String) (slot : Option α) (decode : Decode α) (node : Node) :
    Except Mismatch (Option α) :=
  match slot with
  | some _ => .error (.duplicateField name)
  | none => (decode node).map some

def skip {α : Type} (state : α) (node : Node) : Except Mismatch α :=
  if node.isWhole then .ok state else .error .malformed

def required {α : Type} (name : String) (slot : Option α) : Except Mismatch α :=
  match slot with
  | some value => .ok value
  | none => .error (.missingField name)

/-- How a structure is written: as a map, or as a sequence of its fields in order. -/
structure Shape (δ α : Type) where
  name : String
  start : δ
  member : δ → String → Node → Except Mismatch δ
  finish : δ → Except Mismatch α
  size : Nat
  place : δ → Nat → Node → Except Mismatch δ
  /-- The places that need no item. -/
  hasDefault : Nat → Bool

/-- Takes in the items of a sequence from a place on, `left` of them being wanted. -/
def Shape.places {δ α : Type} (shape : Shape δ α) (closed : Bool) :
    Nat → Nat → List Node → δ → Except Mismatch (δ × List Node)
  | 0, _, items, state => .ok (state, items)
  | left + 1, i, items, state =>
    match items with
    | node :: rest => do
      let state ← shape.place state i node
      shape.places closed left (i + 1) rest state
    | [] =>
      if !closed then .error .malformed
      else if shape.hasDefault i then shape.places closed left (i + 1) [] state
      else .error (.invalidLength i
        ("struct " ++ shape.name ++ " with " ++ toString shape.size ++ " elements"))

def Shape.take {δ α : Type} (shape : Shape δ α) (state : δ) (m : String × Node) :
    Except Mismatch δ :=
  (shape.member state m.1 m.2).mapError (.within m.1)

def Shape.decode {δ α : Type} (shape : Shape δ α) : Decode α
  | .map members closed => do
    let state ← members.foldlM shape.take shape.start
    if closed then shape.finish state else throw .malformed
  | .misnamed members => do
    let _ ← members.foldlM shape.take shape.start
    throw .malformed
  | .sequence items closed => do
    let (state, surplus) ← shape.places closed shape.size 0 items shape.start
    let value ← shape.finish state
    if !closed then throw .malformed
    if surplus.isEmpty then return value else throw (.surplusItems items.length)
  | node => .error (node.mismatch ("struct " ++ shape.name))

end Credentials.Decoding
