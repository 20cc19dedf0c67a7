/-!
A stream of random words that follows from a seed: the ChaCha keystream with twelve rounds, block
after block.
-/

namespace Credentials.Random

abbrev Block := List UInt32

def rotateLeft (x n : UInt32) : UInt32 := (x <<< n) ||| (x >>> (32 - n))

def quarter (a b c d : UInt32) : UInt32 × UInt32 × UInt32 × UInt32 :=
  let a := a + b
  let d := rotateLeft (d ^^^ a) 16
  let c := c + d
  let b := rotateLeft (b ^^^ c) 12
  let a := a + b
  let d := rotateLeft (d ^^^ a) 8
  let c := c + d
  let b := rotateLeft (b ^^^ c) 7
  (a, b, c, d)

/-- Two rounds: the block as four rows is mixed by columns, then by diagonals. -/
def doubleRound : Block → Block
  | [a0, a1, a2, a3, b0, b1, b2, b3, c0, c1, c2, c3, d0, d1, d2, d3] =>
    let (a0, b0, c0, d0) := quarter a0 b0 c0 d0
    let (a1, b1, c1, d1) := quarter a1 b1 c1 d1
    let (a2, b2, c2, d2) := quarter a2 b2 c2 d2
    let (a3, b3, c3, d3) := quarter a3 b3 c3 d3
    let (a0, b1, c2, d3) := quarter a0 b1 c2 d3
    let (a1, b2, c3, d0) := quarter a1 b2 c3 d0
    let (a2, b3, c0, d1) := quarter a2 b3 c0 d1
    let (a3, b0, c1, d2) := quarter a3 b0 c1 d2
    [a0, a1, a2, a3, b0, b1, b2, b3, c0, c1, c2, c3, d0, d1, d2, d3]
  | other => other

/-- The text `expand 32-byte k` as words. -/
def constants : List UInt32 := [0x61707865, 0x3320646e, 0x79622d32, 0x6b206574]

def wordsOf : List UInt8 → List UInt32
  | a :: b :: c :: d :: rest =>
    (a.toUInt32 ||| (b.toUInt32 <<< 8) ||| (c.toUInt32 <<< 16) ||| (d.toUInt32 <<< 24)) ::
      wordsOf rest
  | _ => []

/-- What is mixed for a block: constants, the seed, the number of the block, and a nonce of zero. -/
def startOf (seed : List UInt8) (number : Nat) : Block :=
  constants ++ wordsOf seed ++ [UInt32.ofNat number, UInt32.ofNat (number / UInt32.size), 0, 0]

def block (doubleRounds : Nat) (seed : List UInt8) (number : Nat) : Block :=
  let start := startOf seed number
  start.zipWith (· + ·) (Nat.repeat doubleRound doubleRounds start)

def keystream (seed : List UInt8) (i : Nat) : UInt32 := (block 6 seed (i / 16)).getD (i % 16) 0

end Credentials.Random
