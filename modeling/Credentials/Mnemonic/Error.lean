/-!
What can be wrong with a phrase. Messages never show the words themselves.
-/

namespace Credentials.Mnemonic

inductive Error where
  /-- A word outside the list, counted from one. -/
  | unknownWord (position : Nat)
  | wordCount (count : Nat)
  | checksum
  | entropyLength (expected actual : Nat)
  | unsupportedLength (bytes : Nat)
  deriving Repr, DecidableEq

def Error.message : Error → String
  | .unknownWord position => "word " ++ toString position ++ " is not in the word list"
  | .wordCount count => "expected 12, 15, 18, 21 or 24 words, got " ++ toString count
  | .checksum => "checksum mismatch"
  | .entropyLength expected actual =>
    "phrase encodes " ++ toString actual ++ " bytes, expected " ++ toString expected
  | .unsupportedLength bytes => "cannot encode " ++ toString bytes ++ " bytes"

end Credentials.Mnemonic
