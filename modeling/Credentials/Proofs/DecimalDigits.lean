import Credentials.Text.Integer
import Credentials.Time.Printer
import Credentials.Time.Reader
import Mathlib.Tactic

/-! Decimal digits as they are written and read: padding leaves the value, and a reader of a fixed
width takes exactly what was padded to it. -/

namespace Credentials.Text

theorem decimal_eq (digits : List Char) : decimal digits = Nat.ofDigitChars 10 digits 0 := rfl

theorem decimal_toDigits (n : Nat) : decimal (Nat.toDigits 10 n) = n := Nat.ofDigitChars_ten_toDigits

theorem decimal_zeros_append (k : Nat) (digits : List Char) :
    decimal (List.replicate k '0' ++ digits) = decimal digits := by
  rw [decimal_eq, Nat.ofDigitChars_append, Nat.ofDigitChars_replicate_zero, Nat.mul_zero, decimal_eq]

theorem decimal_append_zeros (k : Nat) (digits : List Char) :
    decimal (digits ++ List.replicate k '0') = decimal digits * 10 ^ k := by
  rw [decimal_eq, Nat.ofDigitChars_append, Nat.ofDigitChars_replicate_zero, decimal_eq, Nat.mul_comm]

theorem isBlank_of_isDigit {c : Char} (h : c.isDigit = true) : isBlank c = false := by
  rw [Char.isDigit_iff_toNat] at h
  simp only [isBlank, Bool.or_eq_false_iff, Bool.and_eq_false_iff, beq_eq_false_iff_ne,
    decide_eq_false_iff_not]
  change 48 ≤ c.toNat ∧ c.toNat ≤ 57 at h
  omega

theorem takeWhile_digits_append {digits rest : List Char} (hd : ∀ c ∈ digits, c.isDigit = true)
    (hr : ∀ c ∈ rest.head?, c.isDigit = false) :
    (digits ++ rest).takeWhile Char.isDigit = digits := by
  rw [List.takeWhile_append_of_pos hd]
  cases rest with
  | nil => simp
  | cons c rest => simp [hr c (by simp)]

theorem takeWhile_digits {digits : List Char} (hd : ∀ c ∈ digits, c.isDigit = true) :
    digits.takeWhile Char.isDigit = digits := by
  have h := @takeWhile_digits_append digits [] hd nofun
  rwa [List.append_nil] at h

theorem decimal_append (a b : List Char) :
    decimal (a ++ b) = decimal a * 10 ^ b.length + decimal b := by
  induction b using List.reverseRecOn with
  | nil => simp [decimal]
  | append_singleton b c ih =>
    have hlast : ∀ cs : List Char, decimal (cs ++ [c]) = 10 * decimal cs + (c.toNat - 48) :=
      fun _ => List.foldl_concat ..
    rw [← List.append_assoc, hlast, hlast, ih, List.length_append, List.length_singleton, pow_succ]
    ring

theorem decimal_lt {digits : List Char} (hd : ∀ c ∈ digits, c.isDigit = true) :
    decimal digits < 10 ^ digits.length := by
  induction digits with
  | nil => decide
  | cons c digits ih =>
    obtain ⟨hc, hd⟩ := List.forall_mem_cons.mp hd
    have hlow := ih hd
    have hhead : decimal [c] ≤ 9 := by
      rw [Char.isDigit_iff_toNat] at hc
      change 48 ≤ c.toNat ∧ c.toNat ≤ 57 at hc
      change 10 * 0 + (c.toNat - 48) ≤ 9
      omega
    rw [← List.singleton_append, decimal_append, List.length_append, pow_add]
    have hmul := Nat.mul_le_mul_right (10 ^ digits.length) hhead
    change _ < 10 * _
    omega

end Credentials.Text

namespace Credentials.Time

open Text

theorem isDigit_of_mem_padded {width n : Nat} {c : Char} (h : c ∈ padded width n) :
    c.isDigit = true := by
  rcases List.mem_append.mp h with h | h
  · rw [List.eq_of_mem_replicate h]
    rfl
  · exact Nat.isDigit_of_mem_toDigits (by decide) (by decide) h

theorem decimal_padded (width n : Nat) : decimal (padded width n) = n := by
  rw [padded, decimal_zeros_append, decimal_toDigits]

theorem padded_length {width n : Nat} (hw : 0 < width) (h : n < 10 ^ width) :
    (padded width n).length = width := by
  have := (Nat.length_toDigits_le_iff (b := 10) (by decide) hw).mpr h
  simp only [padded, List.length_append, List.length_replicate]
  omega

/-- A reader that takes at most so many digits takes all of these, whatever follows. -/
theorem number_digits {least width : Nat} {digits : List Char} (hl : digits.length = width)
    (hle : least ≤ width) (hd : ∀ c ∈ digits, c.isDigit = true) (rest : List Char) :
    number least width (digits ++ rest) = some (decimal digits, rest) := by
  simp only [number, List.take_left' hl, takeWhile_digits hd, hl, Nat.not_lt.mpr hle, if_false,
    List.drop_left' hl]

theorem number_padded {width n : Nat} (hw : 0 < width) (h : n < 10 ^ width) (rest : List Char) :
    number width width (padded width n ++ rest) = some (n, rest) := by
  rw [number_digits (padded_length hw h) le_rfl fun _ => isDigit_of_mem_padded, decimal_padded]

/-- Six decimals are as many millionths. -/
theorem fraction_padded {n : Nat} (h : n < 1000000) (rest : List Char)
    (hr : ∀ c ∈ rest.head?, c.isDigit = false) :
    fraction ('.' :: (padded 6 n ++ rest)) = some (n * 1000, rest) := by
  have hl : (padded 6 n).length = 6 := padded_length (by decide) h
  have hn : (padded 6 n).isEmpty = false := by
    rw [List.isEmpty_eq_false_iff, ← List.length_pos_iff]
    omega
  have ht : (padded 6 n ++ List.replicate 9 '0').take 9 = padded 6 n ++ List.replicate 3 '0' := by
    rw [List.take_append, List.take_of_length_le (by omega), List.take_replicate, hl]
    rfl
  simp only [fraction, takeWhile_digits_append (fun c => isDigit_of_mem_padded) hr, hn,
    Bool.false_eq_true, if_false, ht, decimal_append_zeros, decimal_padded, List.drop_left]
  rfl

end Credentials.Time
