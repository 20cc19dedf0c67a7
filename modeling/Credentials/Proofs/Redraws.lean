import Credentials.Proofs.BitStrings
import Credentials.Proofs.Draws
import Credentials.Proofs.SecretText
import Mathlib.Data.Set.Card

/-! A secret is drawn again until it is free. The text of a draw is that of its bits, six to a
character, so different draws have different texts; and where fewer secrets are taken than there are
different draws, one of these is free. -/

namespace Credentials

open Mnemonic (bitsOf bitsOfBytes groups numberOf)

namespace Text.Base64

/-- The characters in the order of the values they stand for. -/
def alphabet : List Char :=
  "ABCDEFGHIJKLMNOPQRSTUVWXYZabcdefghijklmnopqrstuvwxyz0123456789-_".toList

/-- How many characters hold so many bytes. -/
def size (bytes : Nat) : Nat := (8 * bytes + 5) / 6

/-- The bits of the bytes in groups of six, the last one filled up with zeros. -/
def sextets (bytes : List UInt8) : List (List Bool) :=
  groups 6 (size bytes.length)
    (bitsOfBytes bytes ++ List.replicate (6 * size bytes.length - 8 * bytes.length) false)

/-- The text of the bytes, a character for each group of their bits. -/
def textOfBits (bytes : List UInt8) : List Char :=
  (sextets bytes).map fun bits => alphabet.getD (numberOf bits) '='

theorem digit_eq : ∀ n < 64, digit n = alphabet.getD n '=' := by decide +kernel

theorem character_bitsOf (n : Nat) :
    alphabet.getD (numberOf (bitsOf 6 n)) '=' = digit (n % 64) := by
  have hlt : n % 64 < 2 ^ 6 := Nat.mod_lt _ (by decide)
  have hbits : bitsOf 6 (n % 64) = bitsOf 6 n := Mnemonic.bitsOf_mod (Nat.le_refl 6) n
  rw [← hbits, Mnemonic.numberOf_bitsOf hlt, digit_eq _ hlt]

theorem groups_bitsOf (count n : Nat) (rest : List Bool) :
    groups 6 (count + 1) (bitsOf 6 n ++ rest) = bitsOf 6 n :: groups 6 count rest := by
  have hlength := Mnemonic.bitsOf_length 6 n
  rw [groups, List.take_left' hlength, List.drop_left' hlength]

theorem bitsOf_two (a b : UInt8) :
    bitsOf 16 (a.toNat * 256 + b.toNat) = bitsOf 8 a.toNat ++ bitsOf 8 b.toNat :=
  Mnemonic.bitsOf_append (a := 8) a.toNat b.toNat_lt

theorem bitsOf_three (a b c : UInt8) :
    bitsOf 24 (a.toNat * 65536 + b.toNat * 256 + c.toNat) =
      bitsOf 8 a.toNat ++ (bitsOf 8 b.toNat ++ bitsOf 8 c.toNat) := by
  have hlt : b.toNat * 256 + c.toNat < 2 ^ 16 := by
    have := b.toNat_lt
    have := c.toNat_lt
    omega
  have h := Mnemonic.bitsOf_append (a := 8) a.toNat hlt
  rwa [bitsOf_two, ← Nat.add_assoc] at h

theorem sextets_three (a b c : UInt8) (rest : List UInt8) :
    sextets (a :: b :: c :: rest) =
      let n := a.toNat * 65536 + b.toNat * 256 + c.toNat
      bitsOf 6 (n / 262144) :: bitsOf 6 (n / 4096) :: bitsOf 6 (n / 64) :: bitsOf 6 n ::
        sextets rest := by
  have hsize : size (rest.length + 1 + 1 + 1) = size rest.length + 1 + 1 + 1 + 1 := by
    unfold size
    omega
  have hfill : 6 * (size rest.length + 1 + 1 + 1 + 1) - 8 * (rest.length + 1 + 1 + 1) =
      6 * size rest.length - 8 * rest.length := by omega
  have hbits : bitsOfBytes (a :: b :: c :: rest) =
      bitsOf 24 (a.toNat * 65536 + b.toNat * 256 + c.toNat) ++ bitsOfBytes rest := by
    rw [bitsOf_three]
    simp
  rw [sextets, hbits, Mnemonic.bitsOf_add 18 6, Mnemonic.bitsOf_add 12 6, Mnemonic.bitsOf_add 6 6]
  simp only [List.length_cons, hsize, hfill, List.append_assoc, groups_bitsOf, Nat.div_div_eq_div_mul]
  rfl

theorem sextets_two (a b : UInt8) : sextets [a, b] =
    let n := a.toNat * 1024 + b.toNat * 4
    [bitsOf 6 (n / 4096), bitsOf 6 (n / 64), bitsOf 6 n] := by
  have hbits : bitsOfBytes [a, b] ++ [false, false] =
      bitsOf 18 (a.toNat * 1024 + b.toNat * 4) ++ [] := by
    have h := Mnemonic.bitsOf_append (a := 16) (b := 2) (a.toNat * 256 + b.toNat) (y := 0) (by decide)
    have hn : (a.toNat * 256 + b.toNat) * 2 ^ 2 + 0 = a.toNat * 1024 + b.toNat * 4 := by omega
    rw [hn, bitsOf_two] at h
    rw [h]
    rfl
  have hsize : size [a, b].length = 3 := by simp [size]
  rw [sextets, hsize]
  change groups 6 3 (bitsOfBytes [a, b] ++ [false, false]) = _
  rw [hbits, Mnemonic.bitsOf_add 12 6, Mnemonic.bitsOf_add 6 6]
  simp only [List.append_assoc, groups_bitsOf, Nat.div_div_eq_div_mul]
  rfl

theorem sextets_one (a : UInt8) :
    sextets [a] = [bitsOf 6 (a.toNat * 16 / 64), bitsOf 6 (a.toNat * 16)] := by
  have hbits : bitsOfBytes [a] ++ [false, false, false, false] = bitsOf 12 (a.toNat * 16) ++ [] := by
    have h := Mnemonic.bitsOf_append (a := 8) (b := 4) a.toNat (y := 0) (by decide)
    have hn : a.toNat * 2 ^ 4 + 0 = a.toNat * 16 := by omega
    rw [hn] at h
    rw [h]
    rfl
  have hsize : size [a].length = 2 := by simp [size]
  rw [sextets, hsize]
  change groups 6 2 (bitsOfBytes [a] ++ [false, false, false, false]) = _
  rw [hbits, Mnemonic.bitsOf_add 6 6]
  simp only [List.append_assoc, groups_bitsOf]
  rfl

theorem encode_eq_textOfBits (bytes : List UInt8) : encode bytes = textOfBits bytes := by
  induction bytes using encode.induct with
  | case1 a b c rest ih =>
    have hlt : (a.toNat * 65536 + b.toNat * 256 + c.toNat) / 262144 < 64 := by
      have := a.toNat_lt
      have := b.toNat_lt
      have := c.toNat_lt
      omega
    rw [encode, textOfBits, sextets_three, ih]
    simp only [List.map_cons, character_bitsOf, Nat.mod_eq_of_lt hlt]
    rfl
  | case2 a b =>
    have hlt : (a.toNat * 1024 + b.toNat * 4) / 4096 < 64 := by
      have := a.toNat_lt
      have := b.toNat_lt
      omega
    rw [encode, textOfBits, sextets_two]
    simp only [List.map_cons, List.map_nil, character_bitsOf, Nat.mod_eq_of_lt hlt]
  | case3 a =>
    have ha := a.toNat_lt
    have hhigh : a.toNat * 16 / 64 % 64 = a.toNat / 4 := by omega
    have hlow : a.toNat * 16 % 64 = a.toNat % 4 * 16 := by omega
    rw [encode, textOfBits, sextets_one]
    simp only [List.map_cons, List.map_nil, character_bitsOf, hhigh, hlow]
  | case4 => rfl

theorem numberOf_lt_of_sextet {bits : List Bool} (h : bits.length = 6) :
    numberOf bits < alphabet.length := by
  have hlt := Mnemonic.numberOf_lt bits
  rwa [h] at hlt

theorem mem_alphabet_of_mem_encode {bytes : List UInt8} {c : Char} (h : c ∈ encode bytes) :
    c ∈ alphabet := by
  rw [encode_eq_textOfBits] at h
  obtain ⟨bits, hbits, rfl⟩ := List.mem_map.mp h
  have hlength : (bitsOfBytes bytes ++
      List.replicate (6 * size bytes.length - 8 * bytes.length) false).length =
        6 * size bytes.length := by
    rw [List.length_append, Mnemonic.bitsOfBytes_length, List.length_replicate]
    unfold size
    omega
  have hlt := numberOf_lt_of_sextet (Mnemonic.length_of_mem_groups hlength hbits)
  rw [List.getD_eq_getElem _ _ hlt]
  exact List.getElem_mem hlt

end Text.Base64

/-- A draw of 32 bytes is used whole. -/
theorem secretOf_eq_textOfBits {draw : List UInt8} (h : draw.length = 32) :
    secretOf draw = String.ofList (Text.Base64.textOfBits draw) := by
  rw [secretOf, List.take_of_length_le (Nat.le_of_eq h), Text.Base64.encode_eq_textOfBits]

theorem secretOf_length {draw : List UInt8} (h : draw.length = 32) : (secretOf draw).length = 43 := by
  rw [secretOf, String.length_ofList, Text.Base64.encode_length,
    List.take_of_length_le (Nat.le_of_eq h), h]

def supply (stream : Nat → List UInt8) (count : Nat) : Draws := (List.range count).map stream

/-- The first draw of a stream whose secret is not taken is at a place. -/
structure IsFirstFree (taken : String → Bool) (stream : Nat → List UInt8) (place : Nat) : Prop where
  free : taken (secretOf (stream place)) = false
  earlier : ∀ i < place, taken (secretOf (stream i)) = true

variable {taken : String → Bool} {stream : Nat → List UInt8} {place count : Nat}

theorem exists_isFirstFree (h : ∃ i, taken (secretOf (stream i)) = false) :
    ∃ place, IsFirstFree taken stream place :=
  ⟨Nat.find h, Nat.find_spec h, fun _ hi => Bool.eq_true_of_not_eq_false (Nat.find_min h hi)⟩

namespace IsFirstFree

variable (h : IsFirstFree taken stream place)
include h

/-- As long as the draws do not reach the free one, there is no answer. -/
theorem freshSecret_short (hc : count ≤ place) : freshSecret taken [] (supply stream count) = none := by
  refine freshSecret_eq_none_iff.mpr fun draw hdraw => ?_
  obtain ⟨i, hi, rfl⟩ := List.mem_map.mp hdraw
  exact h.earlier i ((List.mem_range.mp hi).trans_le hc)

theorem freshSecret_supply (hc : place < count) :
    freshSecret taken [] (supply stream count) =
      some ⟨secretOf (stream place), ((supply stream place).map secretOf).reverse,
        (supply stream count).drop (place + 1)⟩ := by
  refine freshSecret_eq_some_iff.mpr
    ⟨supply stream place, stream place, (supply stream count).drop (place + 1), ?_, ?_, h.free, by simp⟩
  · have htake : (supply stream count).take (place + 1) = supply stream place ++ [stream place] := by
      rw [supply, ← List.map_take, List.take_range, Nat.min_eq_left hc, List.range_succ,
        List.map_append]
      rfl
    rw [List.append_cons, ← htake, List.take_append_drop]
  · intro draw hdraw
    obtain ⟨i, hi, rfl⟩ := List.mem_map.mp hdraw
    exact h.earlier i (List.mem_range.mp hi)

end IsFirstFree

theorem exists_free {n : Nat} (htaken : {s | taken s = true}.encard ≤ n)
    (hinj : Set.InjOn (fun i => secretOf (stream i)) (Set.Iic n)) :
    ∃ i ≤ n, taken (secretOf (stream i)) = false := by
  by_contra hall
  have hsub : (fun i => secretOf (stream i)) '' Set.Iic n ⊆ {s | taken s = true} := by
    rintro _ ⟨i, hi, rfl⟩
    exact Bool.eq_true_of_not_eq_false fun hfree => hall ⟨i, hi, hfree⟩
  have hle := (Set.encard_le_encard hsub).trans htaken
  rw [hinj.encard_image, ← Finset.coe_Iic, Set.encard_coe_eq_coe_finsetCard, Nat.card_Iic] at hle
  exact absurd (Nat.cast_le.mp hle) (Nat.not_succ_le_self n)

/-- Whatever is taken, a secret is that of the first draw whose secret is free, the draws before it
are the ones refused, and before it there is no answer. It is the text of all 256 bits in 43
characters of the alphabet, so different draws have different secrets; and of `n + 1` different
draws one is free where no more than `n` secrets are taken. -/
theorem freshSecret_of_stream (taken : String → Bool) {stream : Nat → List UInt8}
    (hstream : ∀ i, (stream i).length = 32) :
    ((∃ i, taken (secretOf (stream i)) = false) →
      ∃ place, IsFirstFree taken stream place ∧
        (∀ count ≤ place, freshSecret taken [] (supply stream count) = none) ∧
        ∀ count > place, freshSecret taken [] (supply stream count) =
          some ⟨secretOf (stream place), ((supply stream place).map secretOf).reverse,
            (supply stream count).drop (place + 1)⟩) ∧
    (∀ i, secretOf (stream i) = String.ofList (Text.Base64.textOfBits (stream i)) ∧
      (secretOf (stream i)).length = 43 ∧
      ∀ c ∈ (secretOf (stream i)).toList, c ∈ Text.Base64.alphabet) ∧
    (∀ i j, secretOf (stream i) = secretOf (stream j) → stream i = stream j) ∧
    ∀ n : ℕ, {s | taken s = true}.encard ≤ n → Set.InjOn stream (Set.Iic n) →
      ∃ fresh, freshSecret taken [] (supply stream (n + 1)) = some fresh ∧
        fresh.refused.length ≤ n := by
  refine ⟨fun hfree => ?_, fun i => ?_, fun i j => secretOf_inj (hstream i) (hstream j), ?_⟩
  · obtain ⟨place, h⟩ := exists_isFirstFree hfree
    exact ⟨place, h, fun _ => h.freshSecret_short, fun _ => h.freshSecret_supply⟩
  · refine ⟨secretOf_eq_textOfBits (hstream i), secretOf_length (hstream i), fun c hc => ?_⟩
    rw [secretOf, String.toList_ofList] at hc
    exact Text.Base64.mem_alphabet_of_mem_encode hc
  · intro n htaken hinj
    obtain ⟨i, hi, hfree⟩ := exists_free htaken fun i hi j hj he =>
      hinj hi hj (secretOf_inj (hstream i) (hstream j) he)
    obtain ⟨place, h⟩ := exists_isFirstFree ⟨i, hfree⟩
    have hplace : place ≤ i := by
      by_contra hlt
      have htaken := h.earlier i (not_le.mp hlt)
      rw [hfree] at htaken
      cases htaken
    refine ⟨_, h.freshSecret_supply (by omega), ?_⟩
    rw [List.length_reverse, List.length_map, supply, List.length_map, List.length_range]
    omega

theorem freshSecret_of_stream_secondDraw :
    let stream : Nat → List UInt8 := fun i => List.replicate 31 0 ++ [UInt8.ofNat i]
    let taken : String → Bool := fun s => s == "AAAAAAAAAAAAAAAAAAAAAAAAAAAAAAAAAAAAAAAAAAA"
    ∃ fresh, freshSecret taken [] (supply stream 2) = some fresh ∧ fresh.refused.length ≤ 1 ∧
      fresh.secret = "AAAAAAAAAAAAAAAAAAAAAAAAAAAAAAAAAAAAAAAAAAE" := by
  intro stream taken
  have htaken : {s | taken s = true}.encard ≤ (1 : ℕ) := by
    have hset : {s | taken s = true} = {"AAAAAAAAAAAAAAAAAAAAAAAAAAAAAAAAAAAAAAAAAAA"} := by
      ext s
      simp [taken]
    rw [hset, Set.encard_singleton]
    rfl
  have hinj : Set.InjOn stream (Set.Iic 1) := by
    intro i hi j hj he
    rcases Nat.le_one_iff_eq_zero_or_eq_one.mp hi with rfl | rfl <;>
      rcases Nat.le_one_iff_eq_zero_or_eq_one.mp hj with rfl | rfl
    · rfl
    · exact absurd he (by decide)
    · exact absurd he (by decide)
    · rfl
  have hdraws : ∀ i, (stream i).length = 32 := fun i => by simp [stream]
  obtain ⟨fresh, hfresh, hlength⟩ := (freshSecret_of_stream taken hdraws).2.2.2 1 htaken hinj
  have hsecret : (freshSecret taken [] (supply stream 2)).map (·.secret) =
      some "AAAAAAAAAAAAAAAAAAAAAAAAAAAAAAAAAAAAAAAAAAE" := by decide +kernel
  rw [hfresh] at hsecret
  exact ⟨fresh, hfresh, hlength, Option.some.inj hsecret⟩

end Credentials
