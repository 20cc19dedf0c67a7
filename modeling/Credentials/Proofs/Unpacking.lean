import Credentials.Proofs.BitStrings

/-! Unpacking puts out the bits that the indices have, byte by byte. Between two indices fewer than
eight bits are held, and they are the last ones taken in. -/

namespace Credentials.Mnemonic

theorem toWord32?_of_lt {n : Nat} (h : n < UInt32.size) : toWord32? n = some (UInt32.ofNat n) :=
  if_pos h

/-- What is left of a word under the mask of a byte is a byte. -/
theorem toByte?_masked (w : UInt32) :
    ∃ b, toByte? (w &&& 0xff) = some b ∧ b.toNat = w.toNat % 2 ^ 8 := by
  have hmask : (0xff : UInt32).toNat = 2 ^ 8 - 1 := rfl
  have hmod : (w &&& 0xff).toNat = w.toNat % 2 ^ 8 := by
    rw [UInt32.toNat_and, hmask, Nat.and_two_pow_sub_one_eq_mod]
  have hlt : (w &&& 0xff).toNat < UInt8.size := hmod ▸ Nat.mod_lt _ (by decide)
  exact ⟨_, if_pos hlt, by rw [UInt32.toNat_toUInt8, hmod, Nat.mod_mod]⟩

theorem toNat_shiftLeft_of_lt {a n : UInt32} (hn : n.toNat < 32)
    (h : a.toNat * 2 ^ n.toNat < UInt32.size) : (a <<< n).toNat = a.toNat * 2 ^ n.toNat := by
  rw [UInt32.toNat_shiftLeft, Nat.mod_eq_of_lt hn, Nat.shiftLeft_eq, Nat.mod_eq_of_lt h]

theorem one_shiftLeft_fits {n : UInt32} (hn : n.toNat < 8) :
    (1 : UInt32).toNat * 2 ^ n.toNat < UInt32.size := by
  have hpow : 2 ^ n.toNat < 2 ^ 8 := Nat.pow_lt_pow_right (by decide) hn
  rw [UInt32.toNat_one, Nat.one_mul]
  exact hpow.trans (by decide)

theorem toNat_one_shiftLeft {n : UInt32} (hn : n.toNat < 8) :
    ((1 : UInt32) <<< n).toNat = 2 ^ n.toNat := by
  rw [toNat_shiftLeft_of_lt (by omega) (one_shiftLeft_fits hn), UInt32.toNat_one, Nat.one_mul]

theorem one_le_shiftLeft {n : UInt32} (hn : n.toNat < 8) : (1 : UInt32) ≤ 1 <<< n := by
  rw [UInt32.le_iff_toNat_le, toNat_one_shiftLeft hn]
  exact Nat.two_pow_pos _

namespace Unpacking

/-- What has been taken in: the bytes that are out, and the bits that are held. -/
def bits (u : Unpacking) : List Bool :=
  bitsOfBytes u.bytes.reverse ++ bitsOf u.held.toNat u.acc.toNat

/-- Between two indices no whole byte is held, and nothing that has left. -/
structure Short (u : Unpacking) : Prop where
  held : u.held.toNat < 8
  acc : u.acc.toNat < 2 ^ u.held.toNat

theorem Short.acc_lt {u : Unpacking} (h : u.Short) : u.acc.toNat < 2 ^ 7 :=
  h.acc.trans_le (Nat.pow_le_pow_right (by decide) (Nat.le_of_lt_succ h.held))

theorem Short.acc_fits {u : Unpacking} (h : u.Short) : u.acc.toNat * 2 ^ 11 < UInt32.size := by
  have hacc := h.acc_lt
  have hsize : UInt32.size = 2 ^ 32 := rfl
  omega

theorem Short.acc_shifted {u : Unpacking} (h : u.Short) :
    (u.acc <<< 11).toNat = u.acc.toNat * 2 ^ 11 := toNat_shiftLeft_of_lt (by decide) h.acc_fits

theorem shift_acc {u : Unpacking} {index : Nat} (h : u.Short) (hi : index < 2048) :
    (u.shift index).acc.toNat = u.acc.toNat * 2 ^ 11 + index := by
  have hsize : index < UInt32.size := hi.trans (by decide)
  rw [shift, toWord32?_of_lt hsize, Option.getD_some, UInt32.toNat_or, h.acc_shifted,
    UInt32.toNat_ofNat_of_lt' hsize, ← Nat.shiftLeft_eq, Nat.shiftLeft_add_eq_or_of_lt hi]

theorem shift_held {u : Unpacking} (index : Nat) (h : u.Short) :
    (u.shift index).held.toNat = u.held.toNat + 11 := by
  have hheld := h.held
  have h11 : (11 : UInt32).toNat = 11 := rfl
  rw [shift, UInt32.toNat_add, h11, Nat.mod_eq_of_lt (by omega)]

theorem shift_bits {u : Unpacking} {index : Nat} (h : u.Short) (hi : index < 2048) :
    (u.shift index).bits = u.bits ++ bitsOf 11 index := by
  rw [bits, shift_held index h, shift_acc h hi, bitsOf_append _ hi, ← List.append_assoc]
  rfl

theorem emit_bits {u : Unpacking} (h8 : 8 ≤ u.held) (h32 : u.held.toNat < 32) :
    u.emit.bits = u.bits := by
  have hheld := emit_held h8
  have hle : 8 ≤ u.held.toNat := UInt32.le_iff_toNat_le.mp h8
  have hsub : (u.held - 8).toNat = u.held.toNat - 8 := hheld
  obtain ⟨b, hsome, hb⟩ := toByte?_masked (u.acc >>> (u.held - 8))
  rw [UInt32.toNat_shiftRight, hsub, Nat.mod_eq_of_lt (by omega : _ < 32),
    Nat.shiftRight_eq_div_pow] at hb
  have hbyte : bitsOfBytes [b] = bitsOf 8 (u.acc.toNat / 2 ^ (u.held.toNat - 8)) := by
    rw [bitsOfBytes_cons, hb, bitsOf_mod (Nat.le_refl 8)]
    exact List.append_nil _
  have hsplit : bitsOf u.held.toNat u.acc.toNat =
      bitsOf 8 (u.acc.toNat / 2 ^ (u.held.toNat - 8)) ++ bitsOf (u.held.toNat - 8) u.acc.toNat := by
    rw [← bitsOf_add, Nat.add_sub_cancel' hle]
  have hbytes : u.emit.bytes = b :: u.bytes := by rw [emit, hsome, Option.getD_some]
  rw [bits, hbytes, hheld, List.reverse_cons, bitsOfBytes_append, hbyte, bits, hsplit,
    List.append_assoc]
  rfl

theorem drain_bits {u : Unpacking} (h32 : u.held.toNat < 32) :
    u.drain.bits = u.bits ∧ u.drain.held.toNat < 8 := by
  induction u using drain.induct with
  | case1 u h8 ih =>
    have hheld := emit_held h8
    obtain ⟨hdrained, hlt⟩ := ih (by omega)
    rw [drain, if_pos h8]
    exact ⟨hdrained.trans (emit_bits h8 h32), hlt⟩
  | case2 u h8 =>
    rw [drain, if_neg h8]
    exact ⟨rfl, Nat.lt_of_not_le fun hle => h8 (UInt32.le_iff_toNat_le.mpr hle)⟩

theorem clear_acc {u : Unpacking} (h : u.held.toNat < 8) :
    u.clear.acc.toNat = u.acc.toNat % 2 ^ u.held.toNat := by
  have hmask : (((1 : UInt32) <<< u.held) - 1).toNat = 2 ^ u.held.toNat - 1 := by
    rw [UInt32.toNat_sub_of_le _ _ (one_le_shiftLeft h), toNat_one_shiftLeft h, UInt32.toNat_one]
  rw [clear, UInt32.toNat_and, hmask, Nat.and_two_pow_sub_one_eq_mod]

/-- What has left is masked away, which no bit that is still held notices. -/
theorem clear_bits {u : Unpacking} (h : u.held.toNat < 8) : u.clear.bits = u.bits ∧ u.clear.Short := by
  have hacc := clear_acc h
  refine ⟨?_, h, ?_⟩
  · rw [bits, hacc]
    exact congrArg _ (bitsOf_mod (Nat.le_refl _) _)
  · rw [hacc]
    exact Nat.mod_lt _ (Nat.two_pow_pos _)

theorem shift_held_lt {u : Unpacking} (index : Nat) (h : u.Short) :
    (u.shift index).held.toNat < 32 := by
  have hheld := h.held
  rw [shift_held index h]
  omega

theorem push_bits {u : Unpacking} {index : Nat} (h : u.Short) (hi : index < 2048) :
    (u.push index).bits = u.bits ++ bitsOf 11 index ∧ (u.push index).Short := by
  obtain ⟨hdrain, hlt⟩ := drain_bits (shift_held_lt index h)
  obtain ⟨hclear, hshort⟩ := clear_bits hlt
  exact ⟨hclear.trans (hdrain.trans (shift_bits h hi)), hshort⟩

theorem short_start : start.Short := ⟨by decide, by decide⟩

theorem foldl_push_bits {u : Unpacking} {indices : List Nat} (h : u.Short)
    (hi : ∀ i ∈ indices, i < 2048) :
    (indices.foldl push u).bits = u.bits ++ bitsOfIndices indices ∧
      (indices.foldl push u).Short := by
  induction indices generalizing u with
  | nil => exact ⟨(List.append_nil _).symm, h⟩
  | cons i indices ih =>
    obtain ⟨hbits, hshort⟩ := push_bits h (hi i List.mem_cons_self)
    obtain ⟨hrest, hend⟩ := ih hshort fun j hj => hi j (List.mem_cons_of_mem _ hj)
    refine ⟨?_, hend⟩
    rw [List.foldl_cons, hrest, hbits, List.append_assoc]
    rfl

end Unpacking

open Unpacking

/-- The bytes behind indices are the bits of the indices, the check bits left out. -/
theorem unpack_bits {indices : List Nat} (hi : ∀ i ∈ indices, i < 2048) :
    bitsOfBytes (unpack indices) = (bitsOfIndices indices).take (8 * (indices.length / 3 * 4)) ∧
      (unpack indices).length = indices.length / 3 * 4 := by
  obtain ⟨hbits, hshort⟩ := foldl_push_bits short_start hi
  have hstart : start.bits = [] := rfl
  rw [hstart, List.nil_append, Unpacking.bits] at hbits
  have hlen := congrArg List.length hbits
  have hheld := hshort.held
  rw [List.length_append, bitsOfBytes_length, bitsOf_length, bitsOfIndices_length] at hlen
  have hle : indices.length / 3 * 4 ≤ (indices.foldl push start).bytes.reverse.length := by omega
  refine ⟨?_, ?_⟩
  · rw [unpack, bitsOfBytes_take, ← hbits, List.take_append_of_le_length]
    rw [bitsOfBytes_length]
    omega
  · rw [unpack, List.length_take, Nat.min_eq_left hle]

end Credentials.Mnemonic
