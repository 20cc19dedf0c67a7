import Credentials.Text.Quoted

/-!
Bytes as hexadecimal digits, and as the UTF-8 form of a text.
-/

namespace Credentials.Text

def utf8 (s : List Char) : List UInt8 := s.flatMap String.utf8EncodeChar

namespace Hex

inductive Error where
  | oddLength
  | invalidDigit (byte : UInt8) (position : Nat)
  deriving Repr, DecidableEq

def shownByte (b : UInt8) : String :=
  let c := Char.ofNat b.toNat
  let inner := if c = '\'' then ['\\', '\''] else if c = '"' then ['"'] else quoteChar c
  "'" ++ String.ofList inner ++ "'"

def Error.message : Error → String
  | .oddLength => "Odd number of digits"
  | .invalidDigit b i => "Invalid character " ++ shownByte b ++ " at position " ++ toString i

def digit (n : Nat) : Char := if n < 10 then Char.ofNat (48 + n) else Char.ofNat (87 + n)

def encode (bytes : List UInt8) : List Char :=
  bytes.flatMap fun b => [digit (b.toNat / 16), digit (b.toNat % 16)]

def digitValue (b : UInt8) : Option Nat :=
  let n := b.toNat
  if 48 ≤ n ∧ n ≤ 57 then some (n - 48)
  else if 97 ≤ n ∧ n ≤ 102 then some (n - 87)
  else if 65 ≤ n ∧ n ≤ 70 then some (n - 55)
  else none

/-- Reads pairs of digits; `position` counts the bytes before them. -/
def decodePairs (position : Nat) : List UInt8 → Except Error (List UInt8)
  | high :: low :: rest =>
    match digitValue high, digitValue low with
    | none, _ => .error (.invalidDigit high position)
    | some _, none => .error (.invalidDigit low (position + 1))
    | some h, some l => do
      let bytes ← decodePairs (position + 2) rest
      return UInt8.ofNat (16 * h + l) :: bytes
  | _ => .ok []

/-- An odd number of digits is reported before any wrong digit. -/
def decode (text : List UInt8) : Except Error (List UInt8) :=
  if text.length % 2 = 1 then .error .oddLength else decodePairs 0 text

end Hex

end Credentials.Text
