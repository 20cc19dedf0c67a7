/-!
Bit strings, most significant bit first, and the two ways a phrase uses them: bytes regrouped into
eleven-bit word indices, and indices unpacked into bytes again.
-/

namespace Credentials.Mnemonic

def bitsOf : Nat → Nat → List Bool
  | 0, _ => []
  | width + 1, n => n.testBit width :: bitsOf width n

def numberOf (bits : List Bool) : Nat := bits.foldl (fun n b => 2 * n + b.toNat) 0

def bitsOfBytes (bytes : List UInt8) : List Bool := bytes.flatMap fun b => bitsOf 8 b.toNat

def bitsOfIndices (indices : List Nat) : List Bool := indices.flatMap (bitsOf 11)

def groups (width : Nat) : Nat → List Bool → List (List Bool)
  | 0, _ => []
  | count + 1, bits => bits.take width :: groups width count (bits.drop width)

def toWord32? (n : Nat) : Option UInt32 :=
  if n < UInt32.size then some (UInt32.ofNat n) else none

def toByte? (w : UInt32) : Option UInt8 :=
  if w.toNat < UInt8.size then some w.toUInt8 else none

/-- Bytes assembled from indices: `held` bits wait in `acc`, the bytes that are out stand newest
first. -/
structure Unpacking where
  acc : UInt32
  held : UInt32
  bytes : List UInt8
  deriving Repr, DecidableEq

namespace Unpacking

def start : Unpacking := ⟨0, 0, []⟩

/-- Takes out the high byte of what is held; a value that is no byte would give zero. -/
def emit (u : Unpacking) : Unpacking :=
  { u with
    held := u.held - 8
    bytes := (toByte? ((u.acc >>> (u.held - 8)) &&& 0xff)).getD 0 :: u.bytes }

theorem emit_held {u : Unpacking} (h : 8 ≤ u.held) : u.emit.held.toNat = u.held.toNat - 8 :=
  UInt32.toNat_sub_of_le _ _ h

def drain (u : Unpacking) : Unpacking :=
  if 8 ≤ u.held then drain u.emit else u
termination_by u.held.toNat
decreasing_by
  have hheld := emit_held ‹8 ≤ u.held›
  have hle : 8 ≤ u.held.toNat := UInt32.le_iff_toNat_le.mp ‹8 ≤ u.held›
  omega

/-- Shifts an index in; one that is too large for a word would count as zero. -/
def shift (u : Unpacking) (index : Nat) : Unpacking :=
  { u with acc := (u.acc <<< 11) ||| (toWord32? index).getD 0, held := u.held + 11 }

def clear (u : Unpacking) : Unpacking := { u with acc := u.acc &&& ((1 <<< u.held) - 1) }

def push (u : Unpacking) (index : Nat) : Unpacking := (u.shift index).drain.clear

end Unpacking

/-- The bytes behind word indices: four for every three words, the check bits left out. -/
def unpack (indices : List Nat) : List UInt8 :=
  ((indices.foldl Unpacking.push Unpacking.start).bytes.reverse).take (indices.length / 3 * 4)

end Credentials.Mnemonic
