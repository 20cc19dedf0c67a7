import Credentials.Random.Keystream

/-!
Random decimal digits from random words, each digit equally likely.
-/

namespace Credentials.Random

/-- A word stands for the tenth of all words that it lies in. -/
def digitOf (word : UInt32) : Fin 10 := ⟨word.toNat * 10 / UInt32.size, by
  rw [Nat.div_lt_iff_lt_mul (by decide)]
  have := word.toNat_lt_size
  omega⟩

/-- The number of words is no multiple of ten, so the words at the upper end of some tenths are
passed over. -/
def isFair (word : UInt32) : Bool :=
  word.toNat * 10 % UInt32.size < UInt32.size - UInt32.size % 10

def fairFrom (words : Nat → UInt32) : Nat → Nat → Nat
  | 0, i => i
  | fuel + 1, i => if isFair (words i) then i else fairFrom words fuel (i + 1)

def placeOf (words : Nat → UInt32) : Nat → Nat
  | 0 => fairFrom words 64 0
  | n + 1 => fairFrom words 64 (placeOf words n + 1)

def digits (seed : List UInt8) (n : Nat) : Fin 10 :=
  digitOf (keystream seed (placeOf (keystream seed) n))

end Credentials.Random
