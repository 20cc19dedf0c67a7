import Credentials.Secret
import Mathlib.Data.List.Nodup

/-! Different draws make different secrets. The length of a text tells how many bytes it stands for,
and its digits, a group at a time, tell which. -/

namespace Credentials

namespace Text.Base64

theorem nodup_digits : ((List.range 64).map digit).Nodup := by decide +kernel

theorem digit_inj {m n : Nat} (hm : m < 64) (hn : n < 64) (h : digit m = digit n) : m = n :=
  List.inj_on_of_nodup_map nodup_digits (List.mem_range.mpr hm) (List.mem_range.mpr hn) h

theorem digit_mod_inj {m n : Nat} (h : digit (m % 64) = digit (n % 64)) : m % 64 = n % 64 :=
  digit_inj (Nat.mod_lt _ (by omega)) (Nat.mod_lt _ (by omega)) h

/-- The four digits of a group tell its three bytes. -/
theorem group_inj {a b c a' b' c' : UInt8} {rest rest' : List UInt8}
    (h : encode (a :: b :: c :: rest) = encode (a' :: b' :: c' :: rest')) :
    a = a' ∧ b = b' ∧ c = c' ∧ encode rest = encode rest' := by
  simp only [encode, List.cons.injEq] at h
  obtain ⟨h₁, h₂, h₃, h₄, hrest⟩ := h
  have ha := a.toNat_lt
  have hb := b.toNat_lt
  have hc := c.toNat_lt
  have ha' := a'.toNat_lt
  have hb' := b'.toNat_lt
  have hc' := c'.toNat_lt
  have e₁ := digit_inj (by omega) (by omega) h₁
  have e₂ := digit_mod_inj h₂
  have e₃ := digit_mod_inj h₃
  have e₄ := digit_mod_inj h₄
  have hn : a.toNat * 65536 + b.toNat * 256 + c.toNat =
      a'.toNat * 65536 + b'.toNat * 256 + c'.toNat := by omega
  refine ⟨UInt8.toNat_inj.mp ?_, UInt8.toNat_inj.mp ?_, UInt8.toNat_inj.mp ?_, hrest⟩ <;> omega

theorem pair_inj {a b a' b' : UInt8} (h : encode [a, b] = encode [a', b']) : a = a' ∧ b = b' := by
  simp only [encode, List.cons.injEq, and_true] at h
  obtain ⟨h₁, h₂, h₃⟩ := h
  have ha := a.toNat_lt
  have hb := b.toNat_lt
  have ha' := a'.toNat_lt
  have hb' := b'.toNat_lt
  have e₁ := digit_inj (by omega) (by omega) h₁
  have e₂ := digit_mod_inj h₂
  have e₃ := digit_mod_inj h₃
  have hn : a.toNat * 1024 + b.toNat * 4 = a'.toNat * 1024 + b'.toNat * 4 := by omega
  refine ⟨UInt8.toNat_inj.mp ?_, UInt8.toNat_inj.mp ?_⟩ <;> omega

theorem single_inj {a a' : UInt8} (h : encode [a] = encode [a']) : a = a' := by
  simp only [encode, List.cons.injEq, and_true] at h
  obtain ⟨h₁, h₂⟩ := h
  have ha := a.toNat_lt
  have ha' := a'.toNat_lt
  have e₁ := digit_inj (by omega) (by omega) h₁
  have e₂ := digit_inj (by omega) (by omega) h₂
  apply UInt8.toNat_inj.mp
  omega

theorem encode_length (bytes : List UInt8) : (encode bytes).length = (4 * bytes.length + 2) / 3 := by
  induction bytes using encode.induct with
  | case1 a b c rest ih =>
    simp only [encode, List.length_cons, ih]
    omega
  | case2 | case3 | case4 => simp [encode]

theorem encode_injective : Function.Injective encode := by
  intro bytes bytes' h
  have hlength := congrArg List.length h
  rw [encode_length, encode_length] at hlength
  induction bytes using encode.induct generalizing bytes' with
  | case1 a b c rest ih =>
    match bytes' with
    | a' :: b' :: c' :: rest' =>
      obtain ⟨rfl, rfl, rfl, hrest⟩ := group_inj h
      simp only [List.length_cons] at hlength
      rw [ih hrest (by omega)]
    | [_, _] | [_] | [] =>
      simp only [List.length_cons, List.length_nil] at hlength
      omega
  | case2 a b =>
    match bytes' with
    | [a', b'] =>
      obtain ⟨rfl, rfl⟩ := pair_inj h
      rfl
    | _ :: _ :: _ :: _ | [_] | [] =>
      simp only [List.length_cons, List.length_nil] at hlength
      omega
  | case3 a =>
    match bytes' with
    | [a'] => rw [single_inj h]
    | _ :: _ :: _ | [] =>
      simp only [List.length_cons, List.length_nil] at hlength
      omega
  | case4 =>
    match bytes' with
    | [] => rfl
    | _ :: _ =>
      simp only [List.length_cons, List.length_nil] at hlength
      omega

end Text.Base64

/-- A secret is made of all 32 bytes of its draw. -/
theorem secretOf_inj {draw draw' : List UInt8} (h : draw.length = 32) (h' : draw'.length = 32)
    (hs : secretOf draw = secretOf draw') : draw = draw' := by
  have hbytes := Text.Base64.encode_injective (String.ofList_injective hs)
  rwa [List.take_of_length_le (Nat.le_of_eq h), List.take_of_length_le (Nat.le_of_eq h')] at hbytes

end Credentials
