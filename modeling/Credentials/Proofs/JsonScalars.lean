import Credentials.Json.Value
import Credentials.Proofs.JsonTokens

/-! The strings and natural numbers that the printers write: every character comes back, escaped or
not, and a number up to the largest of 64 bits is the integer it was. -/

namespace Credentials.Json

theorem hex4_hexDigit : ∀ n < 32, hex4 '0' '0' (Text.Hex.digit (n / 16)) (Text.Hex.digit (n % 16)) =
    some n := by
  decide

def pieceOf (c : Char) : Piece :=
  if c.toNat < 0x20 ∧ c ≠ '\n' ∧ c ≠ '\t' ∧ c ≠ '\r' ∧ c.toNat ≠ 8 ∧ c.toNat ≠ 12 then
    .unit c.toNat
  else .char c

theorem char_eq_ofNat {c : Char} {n : Nat} (h : c.toNat = n) : c = Char.ofNat n := by
  rw [← h, Char.ofNat_toNat]

theorem piecesText_escapeChar (c : Char) {ps : List Piece} {s : List Char} (h : PiecesText ps s) :
    PiecesText (pieceOf c :: ps) (escapeChar c ++ s) := by
  unfold escapeChar
  split
  · next he => subst he; exact .escape rfl h
  split
  · next he => subst he; exact .escape rfl h
  split
  · next he => subst he; exact .escape rfl h
  split
  · next he => subst he; exact .escape rfl h
  split
  · next he => subst he; exact .escape rfl h
  split
  · next he => rw [char_eq_ofNat he]; exact .escape rfl h
  split
  · next he => rw [char_eq_ofNat he]; exact .escape rfl h
  split
  · next hq hb hn ht hr h8 h12 hlow =>
    rw [pieceOf, if_pos ⟨hlow, hn, ht, hr, h8, h12⟩]
    exact .unit (hex4_hexDigit c.toNat hlow) h
  · next hq hb hn ht hr h8 h12 hlow =>
    rw [pieceOf, if_neg fun hc => hlow hc.1]
    exact .char (not_lt.mp hlow) hq hb h

theorem piecesText_escaped (s : List Char) : PiecesText (s.map pieceOf) (s.flatMap escapeChar) := by
  induction s with
  | nil => exact .nil
  | cons c s ih => exact piecesText_escapeChar c ih

theorem joinPieces_pieceOf (c : Char) (done : List Char) (ps : List Piece) :
    joinPieces done (pieceOf c :: ps) = joinPieces (c :: done) ps := by
  unfold pieceOf
  split
  · next h =>
    conv_lhs => unfold joinPieces
    rw [if_neg (by omega), if_neg (by omega), Char.ofNat_toNat]
  · rfl

theorem joinPieces_written (s done : List Char) :
    joinPieces done (s.map pieceOf).reverse = some (s ++ done) := by
  induction s using List.reverseRecOn generalizing done with
  | nil => rfl
  | append_singleton s c ih =>
    rw [List.map_append, List.reverse_append]
    simp only [List.map_cons, List.map_nil, List.reverse_singleton, List.singleton_append]
    rw [joinPieces_pieceOf, ih]
    simp

theorem contentOf_written (s : String) : contentOf (s.toList.map pieceOf).reverse = some s := by
  rw [contentOf, joinPieces_written, List.append_nil, Option.map_some, String.ofList_toList]

theorem toDigits_head_ne_zero {n : Nat} (h : 0 < n) (rest : List Char) :
    Nat.toDigits 10 n ≠ '0' :: rest := by
  induction n using Nat.strongRecOn generalizing rest with
  | _ n ih =>
    rw [Nat.toDigits_eq_if (by decide)]
    split
    · next hlt =>
      intro he
      have : n.digitChar.toNat = '0'.toNat := congrArg Char.toNat (List.cons.inj he).1
      rw [Nat.toNat_digitChar_of_lt_ten hlt] at this
      change 48 + n = 48 at this
      omega
    · next hge =>
      intro he
      cases hd : Nat.toDigits 10 (n / 10) with
      | nil => exact Nat.toDigits_ne_nil hd
      | cons c cs =>
        rw [hd] at he
        exact ih (n / 10) (by omega) (by omega) cs ((List.cons.inj he).1 ▸ hd)

theorem naturalText_digits {n : Nat} {c : Char} (h : c ∈ naturalText n) : c.isDigit = true :=
  Nat.isDigit_of_mem_toDigits (by decide) (by decide) h

theorem numeralText_natural (n : Nat) :
    NumeralText ⟨false, naturalText n, none, none⟩ (naturalText n) := by
  have hzero : (naturalText n).head? = some '0' → naturalText n = ['0'] := by
    intro h
    obtain ⟨u, hu⟩ := List.head?_eq_some_iff.mp h
    rcases Nat.eq_zero_or_pos n with rfl | hn
    · rfl
    · exact absurd hu (toDigits_head_ne_zero hn u)
  have h := @NumeralText.mk false _ none none [] []
    ⟨Nat.toDigits_ne_nil, fun _ => naturalText_digits⟩ hzero .none .none
  rwa [List.append_nil, List.append_nil] at h

/-- Up to the largest of 64 bits a number is taken for the integer that was written. -/
theorem toNode_natural {n : Nat} (h : n < UInt64.size) :
    Numeral.toNode ⟨false, naturalText n, none, none⟩ = .integer n := by
  have hv : ∀ (cs : List Char) (v : Nat), cs.foldl (fun v c => v * 10 + (c.toNat - 48)) v =
      Nat.ofDigitChars 10 cs v := by
    intro cs v
    rw [Nat.ofDigitChars_eq_foldl]
    congr 1
    funext v c
    rw [Nat.mul_comm]
    rfl
  have hle : ¬ largestNatural < n := by
    unfold largestNatural
    omega
  simp only [Numeral.toNode, hv, naturalText, Nat.ofDigitChars_ten_toDigits]
  simp [hle]

end Credentials.Json
