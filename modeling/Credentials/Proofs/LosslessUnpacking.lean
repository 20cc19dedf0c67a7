import Credentials.Proofs.Unpacking

/-! Unpacking stays inside its 32 bits. Beside the plain run stands one that stops at the first
operation that would lose a bit and at the first value that is too large for its type; over indices
of eleven bits it never stops, so the bytes are those that the bits of the indices spell. -/

namespace Credentials.Mnemonic

/-! ### Operations that stop instead of losing a bit

Masks are not among them. They drop bits on purpose, those that are out as bytes already. -/

def add? (a b : UInt32) : Option UInt32 :=
  if a.toNat + b.toNat < UInt32.size then some (a + b) else none

def sub? (a b : UInt32) : Option UInt32 := if b.toNat ≤ a.toNat then some (a - b) else none

/-- No bit leaves at the top. -/
def shiftLeft? (a n : UInt32) : Option UInt32 :=
  if n.toNat < 32 ∧ a.toNat * 2 ^ n.toNat < UInt32.size then some (a <<< n) else none

/-- The bits that leave at the bottom are meant to; the word has to have that many places. -/
def shiftRight? (a n : UInt32) : Option UInt32 := if n.toNat < 32 then some (a >>> n) else none

/-- No bit of one falls on a bit of the other. -/
def or? (a b : UInt32) : Option UInt32 := if a &&& b = 0 then some (a ||| b) else none

namespace Unpacking

def shift? (u : Unpacking) (index : Nat) : Option Unpacking := do
  let raised ← shiftLeft? u.acc 11
  let word ← toWord32? index
  let acc ← or? raised word
  let held ← add? u.held 11
  return { u with acc, held }

def emit? (u : Unpacking) : Option Unpacking := do
  let held ← sub? u.held 8
  let lowered ← shiftRight? u.acc held
  let byte ← toByte? (lowered &&& 0xff)
  return { u with held, bytes := byte :: u.bytes }

theorem held_of_emit? {u v : Unpacking} (h : u.emit? = some v) :
    v.held.toNat = u.held.toNat - 8 ∧ 8 ≤ u.held.toNat := by
  simp only [emit?, Option.bind_eq_bind, Option.bind_eq_some_iff, Option.pure_def] at h
  obtain ⟨held, hsub, lowered, -, byte, -, hv⟩ := h
  obtain ⟨hle, hheld⟩ := Option.ite_none_right_eq_some.mp hsub
  obtain rfl := Option.some.inj hheld
  obtain rfl := Option.some.inj hv
  exact ⟨UInt32.toNat_sub_of_le _ _ (UInt32.le_iff_toNat_le.mpr hle), hle⟩

def drain? (u : Unpacking) : Option Unpacking :=
  if 8 ≤ u.held then
    match _h : u.emit? with
    | some v => drain? v
    | none => none
  else some u
termination_by u.held.toNat
decreasing_by
  obtain ⟨hheld, hle⟩ := held_of_emit? ‹_›
  omega

def clear? (u : Unpacking) : Option Unpacking := do
  let bound ← shiftLeft? 1 u.held
  let mask ← sub? bound 1
  return { u with acc := u.acc &&& mask }

def push? (u : Unpacking) (index : Nat) : Option Unpacking := do
  let shifted ← u.shift? index
  let drained ← shifted.drain?
  drained.clear?

end Unpacking

open Unpacking

/-- The bytes behind word indices, unless one of the operations on the way loses a bit. -/
def unpack? (indices : List Nat) : Option (List UInt8) := do
  let u ← indices.foldlM push? start
  return u.bytes.reverse.take (indices.length / 3 * 4)

-- eleven bits have room for no more: a twelfth would fall on the bit that is held
example : unpack? [1, 2048, 0] = none := by cbv

def leadingBytes (count : Nat) (bits : List Bool) : List UInt8 :=
  (groups 8 count bits).map fun group => UInt8.ofNat (numberOf group)

theorem shiftLeft_and_eq_zero {x y n : Nat} (hy : y < 2 ^ n) : (x <<< n) &&& y = 0 := by
  apply Nat.eq_of_testBit_eq
  intro j
  rw [Nat.testBit_and, Nat.testBit_shiftLeft, Nat.zero_testBit]
  by_cases hj : n ≤ j
  · rw [Nat.testBit_lt_two_pow (hy.trans_le (Nat.pow_le_pow_right (by decide) hj)), Bool.and_false]
  · rw [decide_eq_false hj, Bool.false_and, Bool.false_and]

namespace Unpacking

theorem shift?_eq {u : Unpacking} {index : Nat} (h : u.Short) (hi : index < 2048) :
    u.shift? index = some (u.shift index) := by
  have hheld := h.held
  have hindex : index < UInt32.size := hi.trans (by decide)
  have hraised : shiftLeft? u.acc 11 = some (u.acc <<< 11) := if_pos ⟨by decide, h.acc_fits⟩
  -- what was held stands above the places that the index takes
  have hapart : (u.acc <<< 11) &&& UInt32.ofNat index = 0 := by
    apply UInt32.toNat_inj.mp
    rw [UInt32.toNat_and, h.acc_shifted, UInt32.toNat_ofNat_of_lt' hindex, ← Nat.shiftLeft_eq]
    exact shiftLeft_and_eq_zero hi
  have hjoined : or? (u.acc <<< 11) (UInt32.ofNat index) =
      some ((u.acc <<< 11) ||| UInt32.ofNat index) := if_pos hapart
  have hroom : u.held.toNat + 11 < UInt32.size := (Nat.add_lt_add_right hheld 11).trans (by decide)
  have hsum : add? u.held 11 = some (u.held + 11) := if_pos hroom
  simp only [shift?, hraised, toWord32?_of_lt hindex, hjoined, hsum, Option.bind_eq_bind,
    Option.bind_some, Option.pure_def, shift, Option.getD_some]

theorem emit?_eq {u : Unpacking} (h8 : 8 ≤ u.held) (h32 : u.held.toNat < 32) :
    u.emit? = some u.emit := by
  have hheld : (u.held - 8).toNat = u.held.toNat - 8 := emit_held h8
  have hsub : sub? u.held 8 = some (u.held - 8) := if_pos (UInt32.le_iff_toNat_le.mp h8)
  have hlowered : shiftRight? u.acc (u.held - 8) = some (u.acc >>> (u.held - 8)) :=
    if_pos (by omega)
  obtain ⟨b, hb, -⟩ := toByte?_masked (u.acc >>> (u.held - 8))
  simp only [emit?, hsub, hlowered, hb, Option.bind_eq_bind, Option.bind_some, Option.pure_def, emit,
    Option.getD_some]

theorem drain?_eq {u : Unpacking} (h32 : u.held.toNat < 32) : u.drain? = some u.drain := by
  induction u using drain.induct with
  | case1 u h8 ih =>
    have hheld := emit_held h8
    have hemit := emit?_eq h8 h32
    rw [drain?, if_pos h8, drain, if_pos h8]
    split
    · next v hv =>
      obtain rfl := Option.some.inj (hemit.symm.trans hv)
      exact ih (by omega)
    · next hnone => exact absurd (hemit.symm.trans hnone) (Option.some_ne_none _)
  | case2 u h8 => rw [drain?, if_neg h8, drain, if_neg h8]

theorem clear?_eq {u : Unpacking} (h : u.held.toNat < 8) : u.clear? = some u.clear := by
  have hbound : shiftLeft? 1 u.held = some (1 <<< u.held) :=
    if_pos ⟨by omega, one_shiftLeft_fits h⟩
  have hmask : sub? (1 <<< u.held) 1 = some ((1 <<< u.held) - 1) :=
    if_pos (UInt32.le_iff_toNat_le.mp (one_le_shiftLeft h))
  simp only [clear?, hbound, hmask, Option.bind_eq_bind, Option.bind_some, Option.pure_def, clear]

theorem push?_eq {u : Unpacking} {index : Nat} (h : u.Short) (hi : index < 2048) :
    u.push? index = some (u.push index) := by
  have hroom := shift_held_lt index h
  obtain ⟨-, hlt⟩ := drain_bits hroom
  simp only [push?, shift?_eq h hi, drain?_eq hroom, clear?_eq hlt, Option.bind_eq_bind,
    Option.bind_some, push]

theorem foldlM_push? {u : Unpacking} {indices : List Nat} (h : u.Short)
    (hi : ∀ i ∈ indices, i < 2048) : indices.foldlM push? u = some (indices.foldl push u) := by
  induction indices generalizing u with
  | nil => rfl
  | cons i indices ih =>
    have hfirst := hi i List.mem_cons_self
    obtain ⟨-, hshort⟩ := push_bits h hfirst
    rw [List.foldlM_cons, push?_eq h hfirst]
    exact ih hshort fun j hj => hi j (List.mem_cons_of_mem _ hj)

end Unpacking

theorem bitsOfBytes_leadingBytes {count : Nat} {bits : List Bool} (h : 8 * count ≤ bits.length) :
    bitsOfBytes (leadingBytes count bits) = bits.take (8 * count) := by
  have hlength : (bits.take (8 * count)).length = 8 * count := by
    rw [List.length_take, Nat.min_eq_left h]
  have hgroup : ∀ group ∈ groups 8 count (bits.take (8 * count)),
      bitsOf 8 (UInt8.ofNat (numberOf group)).toNat = group := by
    intro group hg
    have h8 := length_of_mem_groups hlength hg
    have hlt := numberOf_lt group
    have hbits := bitsOf_numberOf group
    rw [h8] at hlt hbits
    rw [UInt8.toNat_ofNat_of_lt' hlt, hbits]
  rw [leadingBytes, ← groups_take, bitsOfBytes, List.flatMap_map, List.flatMap_def,
    List.map_congr_left hgroup, List.map_id', groups_flatten hlength]

/-- Before and after each index fewer than eight bits are held, and the accumulator has no others;
with an index shifted in it has at most eighteen. No operation on the way loses a bit and no value
is too large for its type, and the bytes are the first `4 * k` of the indices written out with
eleven bits each, most significant bit first. -/
theorem unpack_lossless (k : Nat) {indices : List Nat} (hlength : indices.length = 3 * k)
    (hi : ∀ i ∈ indices, i < 2048) :
    (∀ taken, taken <+: indices → (taken.foldl push start).Short) ∧
      (∀ taken index, taken ++ [index] <+: indices →
        ((taken.foldl push start).shift index).acc.toNat < 2 ^ 18) ∧
      unpack? indices = some (unpack indices) ∧
      unpack indices = leadingBytes (4 * k) (bitsOfIndices indices) := by
  have hheads : ∀ taken, taken <+: indices → (taken.foldl push start).Short := fun taken ht =>
    (foldl_push_bits short_start fun i hmem => hi i (ht.subset hmem)).2
  refine ⟨hheads, ?_, ?_, ?_⟩
  · intro taken index ht
    have hshort := hheads taken ((List.prefix_append taken [index]).trans ht)
    have hindex := hi index (ht.subset (List.mem_append_right _ List.mem_cons_self))
    have hacc := hshort.acc_lt
    rw [shift_acc hshort hindex]
    omega
  · rw [unpack?, foldlM_push? short_start hi]
    rfl
  · obtain ⟨hbits, -⟩ := unpack_bits hi
    have hcount : indices.length / 3 * 4 = 4 * k := by omega
    have hle : 8 * (4 * k) ≤ (bitsOfIndices indices).length := by
      rw [bitsOfIndices_length]
      omega
    apply bitsOfBytes_injective
    rw [hbits, hcount, bitsOfBytes_leadingBytes hle]

/-- Six indices, among them the greatest and the least, give eight bytes; before the third six bits
are held. -/
theorem unpack_lossless_six :
    let indices := [2047, 1366, 1, 0, 1365, 2047]
    indices.length = 3 * 2 ∧ (∀ i ∈ indices, i < 2048) ∧
      (([2047, 1366].foldl push start).shift 1).acc.toNat < 2 ^ 18 ∧
      unpack? indices = some [255, 245, 88, 0, 128, 10, 171, 255] ∧
      unpack indices = [255, 245, 88, 0, 128, 10, 171, 255] := by
  intro indices
  have hi : ∀ i ∈ indices, i < 2048 := by decide
  obtain ⟨-, hshifted, hchecked, hbytes⟩ := unpack_lossless 2 (show indices.length = 3 * 2 from rfl) hi
  have hspelt : leadingBytes (4 * 2) (bitsOfIndices indices) =
      [255, 245, 88, 0, 128, 10, 171, 255] := by decide
  have htaken : [2047, 1366] ++ [1] <+: indices := ⟨[0, 1365, 2047], rfl⟩
  rw [hbytes, hspelt] at hchecked
  exact ⟨rfl, hi, hshifted [2047, 1366] 1 htaken, hchecked, hbytes.trans hspelt⟩

end Credentials.Mnemonic
