import Credentials.Mnemonic.Bits
import Mathlib.Data.Nat.Bitwise
import Mathlib.Tactic

/-! Bit strings, the numbers they denote, and the groups they are cut into: the bits of a number are
as many as asked for, and groups of equal width give the string back. -/

namespace Credentials.Mnemonic

@[simp] theorem bitsOf_length (width n : Nat) : (bitsOf width n).length = width := by
  induction width with
  | zero => rfl
  | succ width ih => rw [bitsOf, List.length_cons, ih]

theorem bitsOf_add (a b n : Nat) : bitsOf (a + b) n = bitsOf a (n / 2 ^ b) ++ bitsOf b n := by
  induction a with
  | zero => rw [Nat.zero_add]; rfl
  | succ a ih =>
    rw [Nat.add_right_comm, bitsOf, bitsOf, ih, Nat.testBit_div_two_pow, List.cons_append]

theorem bitsOf_mod {a b : Nat} (h : a ≤ b) (n : Nat) : bitsOf a (n % 2 ^ b) = bitsOf a n := by
  induction a with
  | zero => rfl
  | succ a ih =>
    rw [bitsOf, bitsOf, ih (by omega), Nat.testBit_mod_two_pow, decide_eq_true (by omega : a < b),
      Bool.true_and]

theorem bitsOf_append {a b : Nat} (x : Nat) {y : Nat} (hy : y < 2 ^ b) :
    bitsOf (a + b) (x * 2 ^ b + y) = bitsOf a x ++ bitsOf b y := by
  have hdiv : (x * 2 ^ b + y) / 2 ^ b = x := by
    rw [Nat.add_comm, Nat.add_mul_div_right _ _ (Nat.two_pow_pos b), Nat.div_eq_of_lt hy, Nat.zero_add]
  have hmod : (x * 2 ^ b + y) % 2 ^ b = y := by
    rw [Nat.add_comm, Nat.add_mul_mod_self_right, Nat.mod_eq_of_lt hy]
  rw [bitsOf_add, hdiv, ← bitsOf_mod (Nat.le_refl b) (x * 2 ^ b + y), hmod]

theorem numberOf_append (bits : List Bool) (b : Bool) :
    numberOf (bits ++ [b]) = 2 * numberOf bits + b.toNat := by
  rw [numberOf, List.foldl_append]
  rfl

theorem numberOf_lt (bits : List Bool) : numberOf bits < 2 ^ bits.length := by
  induction bits using List.reverseRecOn with
  | nil => decide
  | append_singleton bits b ih =>
    have := b.toNat_lt
    rw [numberOf_append, List.length_append, List.length_singleton, pow_succ]
    omega

theorem bitsOf_numberOf (bits : List Bool) : bitsOf bits.length (numberOf bits) = bits := by
  induction bits using List.reverseRecOn with
  | nil => rfl
  | append_singleton bits b ih =>
    have hb : b.toNat < 2 ^ 1 := b.toNat_lt
    rw [numberOf_append, List.length_append, List.length_singleton, Nat.mul_comm,
      show 2 = 2 ^ 1 from rfl, bitsOf_append _ hb, ih]
    cases b <;> rfl

theorem numberOf_bitsOf {width n : Nat} (h : n < 2 ^ width) : numberOf (bitsOf width n) = n := by
  induction width generalizing n with
  | zero =>
    rw [Nat.lt_one_iff.mp h]
    rfl
  | succ width ih =>
    have hlast : bitsOf 1 n = [n.testBit 0] := rfl
    have hbit : (n.testBit 0).toNat = n % 2 := by
      rw [Nat.testBit_zero]
      rcases Nat.mod_two_eq_zero_or_one n with h | h <;> simp [h]
    rw [bitsOf_add, hlast, numberOf_append, ih (by omega), hbit]
    omega

@[simp] theorem bitsOfBytes_cons (b : UInt8) (bytes : List UInt8) :
    bitsOfBytes (b :: bytes) = bitsOf 8 b.toNat ++ bitsOfBytes bytes := rfl

theorem bitsOfBytes_append (a b : List UInt8) :
    bitsOfBytes (a ++ b) = bitsOfBytes a ++ bitsOfBytes b := List.flatMap_append

theorem bitsOfBytes_length (bytes : List UInt8) : (bitsOfBytes bytes).length = 8 * bytes.length := by
  induction bytes with
  | nil => rfl
  | cons b bytes ih =>
    rw [bitsOfBytes_cons, List.length_append, bitsOf_length, ih, List.length_cons]
    omega

theorem bitsOfBytes_injective {a b : List UInt8} (h : bitsOfBytes a = bitsOfBytes b) : a = b := by
  induction a generalizing b with
  | nil =>
    cases b with
    | nil => rfl
    | cons y b => cases h
  | cons x a ih =>
    cases b with
    | nil => cases h
    | cons y b =>
      obtain ⟨hx, hrest⟩ := List.append_inj h (by rw [bitsOf_length, bitsOf_length])
      have hn := congrArg numberOf hx
      rw [numberOf_bitsOf x.toNat_lt, numberOf_bitsOf y.toNat_lt] at hn
      rw [UInt8.toNat_inj.mp hn, ih hrest]

theorem bitsOfBytes_take (bytes : List UInt8) (count : Nat) :
    bitsOfBytes (bytes.take count) = (bitsOfBytes bytes).take (8 * count) := by
  induction bytes generalizing count with
  | nil => simp [bitsOfBytes]
  | cons b bytes ih =>
    cases count with
    | zero => rfl
    | succ count =>
      have h8 : 8 * (count + 1) = (bitsOf 8 b.toNat).length + 8 * count := by
        rw [bitsOf_length]
        omega
      rw [List.take_succ_cons, bitsOfBytes_cons, bitsOfBytes_cons, h8, List.take_length_add_append, ih]

theorem bitsOfIndices_length (indices : List Nat) :
    (bitsOfIndices indices).length = 11 * indices.length := by
  induction indices with
  | nil => rfl
  | cons i indices ih =>
    have hcons : bitsOfIndices (i :: indices) = bitsOf 11 i ++ bitsOfIndices indices := rfl
    rw [hcons, List.length_append, bitsOf_length, ih, List.length_cons]
    omega

theorem groups_length (width count : Nat) (bits : List Bool) :
    (groups width count bits).length = count := by
  induction count generalizing bits with
  | zero => rfl
  | succ count ih => rw [groups, List.length_cons, ih]

theorem length_of_mem_groups {width count : Nat} {bits group : List Bool}
    (h : bits.length = width * count) (hg : group ∈ groups width count bits) :
    group.length = width := by
  induction count generalizing bits with
  | zero => cases hg
  | succ count ih =>
    rw [Nat.mul_succ] at h
    rcases List.mem_cons.mp hg with rfl | hg
    · rw [List.length_take]
      omega
    · exact ih (by rw [List.length_drop]; omega) hg

theorem groups_flatten {width count : Nat} {bits : List Bool} (h : bits.length = width * count) :
    (groups width count bits).flatten = bits := by
  induction count generalizing bits with
  | zero => exact (List.length_eq_zero_iff.mp h).symm
  | succ count ih =>
    rw [Nat.mul_succ] at h
    rw [groups, List.flatten_cons, ih (by rw [List.length_drop]; omega), List.take_append_drop]

theorem groups_take (width count : Nat) (bits : List Bool) :
    groups width count (bits.take (width * count)) = groups width count bits := by
  induction count generalizing bits with
  | zero => rfl
  | succ count ih =>
    have htake : min width (width * (count + 1)) = width :=
      Nat.min_eq_left (Nat.le_mul_of_pos_right width (Nat.succ_pos count))
    have hdrop : width * (count + 1) - width = width * count := by
      rw [Nat.mul_succ, Nat.add_sub_cancel]
    rw [groups, groups, List.take_take, htake, List.drop_take, hdrop, ih]

/-- The numbers of groups of eleven bits have these bits again. -/
theorem bitsOfIndices_groups {count : Nat} {bits : List Bool} (h : bits.length = 11 * count) :
    bitsOfIndices ((groups 11 count bits).map numberOf) = bits := by
  have hgroup : ∀ group ∈ groups 11 count bits, bitsOf 11 (numberOf group) = group := by
    intro group hg
    have hb := bitsOf_numberOf group
    rwa [length_of_mem_groups h hg] at hb
  rw [bitsOfIndices, List.flatMap_map, List.flatMap_def, List.map_congr_left hgroup, List.map_id',
    groups_flatten h]

theorem lt_of_mem_groups {count : Nat} {bits : List Bool} (h : bits.length = 11 * count) {i : Nat}
    (hi : i ∈ (groups 11 count bits).map numberOf) : i < 2048 := by
  obtain ⟨group, hg, rfl⟩ := List.mem_map.mp hi
  have hlt := numberOf_lt group
  rwa [length_of_mem_groups h hg] at hlt

end Credentials.Mnemonic
