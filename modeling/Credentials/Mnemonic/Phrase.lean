import Credentials.Mnemonic.Bits
import Credentials.Mnemonic.Error
import Credentials.Mnemonic.Language
import Credentials.Text.Decomposition
import Credentials.Text.LowerCase

/-!
Recovery phrases. A byte string is written as words of one language, eleven bits a word, with a
check bit for every 32 bits; a phrase is read in the configured language, or, where that list lacks
a word, in the language it turns out to be written in.
-/

namespace Credentials.Mnemonic

def isEncodable (bytes : Nat) : Bool := bytes % 4 == 0 && 16 ≤ bytes && bytes ≤ 32

def isPhraseLength (count : Nat) : Bool := count % 3 == 0 && 12 ≤ count && count ≤ 24

/-- The check bits of a byte string: one for every four bytes. -/
def checkBits (digest : List UInt8 → List UInt8) (entropy : List UInt8) : List Bool :=
  (bitsOfBytes (digest entropy)).take (entropy.length / 4)

def indicesOf (digest : List UInt8 → List UInt8) (entropy : List UInt8) : List Nat :=
  let bits := bitsOfBytes entropy ++ checkBits digest entropy
  (groups 11 (entropy.length / 4 * 3) bits).map numberOf

namespace Scheme

variable (scheme : Scheme)

def encodeWords (language : Language) (entropy : List UInt8) : Except Error (List Word) :=
  if isEncodable entropy.length then
    let list := scheme.wordList language
    .ok ((indicesOf scheme.digest entropy).map (list.getD · []))
  else .error (.unsupportedLength entropy.length)

def encode (language : Language) (entropy : List UInt8) : Except Error String := do
  let ws ← scheme.encodeWords language entropy
  return String.ofList ([' '].intercalate ws)

/-- The languages that a first word settles, in the order in which they are tried. -/
def distinctive : List Language :=
  [.czech, .italian, .japanese, .korean, .portuguese, .spanish]

/-- The languages that share words, told apart by the whole phrase. -/
def overlapping : List Language :=
  [.english, .chineseSimplified, .chineseTraditional, .french]

def contains (language : Language) (w : Word) : Bool := (scheme.wordList language).contains w

/-- Drops the candidates that lack a word, word after word, until one is left. -/
def narrow (candidates : List Language) : List Word → Option Language
  | [] => none
  | w :: ws =>
    match candidates.filter (scheme.contains · w) with
    | [] => none
    | [language] => some language
    | several => narrow several ws

def detect (ws : List Word) : Option Language :=
  match distinctive.find? fun language => ws.head?.any (scheme.contains language) with
  | some language => some language
  | none => scheme.narrow overlapping ws

/-- The place of the first word that a list lacks, from zero. -/
def firstUnknown (language : Language) (ws : List Word) : Option Nat :=
  ws.findIdx? fun w => !scheme.contains language w

def verify (language : Language) (ws : List Word) : Except Error (List UInt8) :=
  let indices := ws.map ((scheme.wordList language).idxOf ·)
  let entropy := unpack indices
  let held := (bitsOfIndices indices).drop (8 * entropy.length)
  if held = checkBits scheme.digest entropy then .ok entropy else .error .checksum

/-- Reads the words of a phrase. The position reported for an unknown word is always that in the
configured language. -/
def decodeWords (language : Language) (ws : List Word) : Except Error (List UInt8) :=
  if !isPhraseLength ws.length then .error (.wordCount ws.length)
  else match scheme.firstUnknown language ws with
    | none => scheme.verify language ws
    | some i =>
      match scheme.detect ws with
      | none => .error (.unknownWord (i + 1))
      | some detected =>
        match scheme.firstUnknown detected ws with
        | some _ => .error (.unknownWord (i + 1))
        | none => scheme.verify detected ws

/-- The words a typed phrase stands for: case, composed accents and the white space between words
make no difference. -/
def phraseWords (phrase : List Char) : List Word :=
  Text.words (Text.decompose (Text.lowerCase phrase))

def decode (language : Language) (phrase : String) : Except Error (List UInt8) :=
  scheme.decodeWords language (phraseWords phrase.toList)

def decodeExact (language : Language) (phrase : String) (expected : Nat) :
    Except Error (List UInt8) := do
  let entropy ← scheme.decode language phrase
  if entropy.length = expected then return entropy
  else throw (.entropyLength expected entropy.length)

end Scheme

end Credentials.Mnemonic
