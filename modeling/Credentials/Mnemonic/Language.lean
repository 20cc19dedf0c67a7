import Credentials.Digest.Sha256
import Credentials.Mnemonic.Words.English
import Credentials.Mnemonic.Words.Czech
import Credentials.Mnemonic.Words.French
import Credentials.Mnemonic.Words.Italian
import Credentials.Mnemonic.Words.Japanese
import Credentials.Mnemonic.Words.Korean
import Credentials.Mnemonic.Words.Portuguese
import Credentials.Mnemonic.Words.Spanish
import Credentials.Mnemonic.Words.ChineseSimplified
import Credentials.Mnemonic.Words.ChineseTraditional

/-!
The languages a recovery phrase can be written in, and the scheme that phrases follow: a word list
for each language and the digest that check bits are taken from.
-/

namespace Credentials.Mnemonic

inductive Language where
  | english
  | czech
  | french
  | italian
  | japanese
  | korean
  | portuguese
  | spanish
  | chineseSimplified
  | chineseTraditional
  deriving DecidableEq, Repr

namespace Language

/-- Every language, in the order in which names are listed. -/
def all : List Language :=
  [english, czech, french, italian, japanese, korean, portuguese, spanish, chineseSimplified,
   chineseTraditional]

def name : Language → String
  | english => "english"
  | czech => "czech"
  | french => "french"
  | italian => "italian"
  | japanese => "japanese"
  | korean => "korean"
  | portuguese => "portuguese"
  | spanish => "spanish"
  | chineseSimplified => "chinese-simplified"
  | chineseTraditional => "chinese-traditional"

def title : Language → String
  | english => "English"
  | czech => "Czech"
  | french => "French"
  | italian => "Italian"
  | japanese => "Japanese"
  | korean => "Korean"
  | portuguese => "Portuguese"
  | spanish => "Spanish"
  | chineseSimplified => "SimplifiedChinese"
  | chineseTraditional => "TraditionalChinese"

def ofName? (s : String) : Option Language := all.find? (·.name == s)

end Language

abbrev Word := List Char

structure Scheme where
  wordList : Language → List Word
  digest : List UInt8 → List UInt8

namespace Words

def listOf (words : List String) : List Word := words.map String.toList

def englishList : List Word := listOf english
def czechList : List Word := listOf czech
def frenchList : List Word := listOf french
def italianList : List Word := listOf italian
def japaneseList : List Word := listOf japanese
def koreanList : List Word := listOf korean
def portugueseList : List Word := listOf portuguese
def spanishList : List Word := listOf spanish
def chineseSimplifiedList : List Word := listOf chineseSimplified
def chineseTraditionalList : List Word := listOf chineseTraditional

end Words

def publishedList : Language → List Word
  | .english => Words.englishList
  | .czech => Words.czechList
  | .french => Words.frenchList
  | .italian => Words.italianList
  | .japanese => Words.japaneseList
  | .korean => Words.koreanList
  | .portuguese => Words.portugueseList
  | .spanish => Words.spanishList
  | .chineseSimplified => Words.chineseSimplifiedList
  | .chineseTraditional => Words.chineseTraditionalList

/-- The published lists, with check bits from SHA-256. -/
def Scheme.published : Scheme := ⟨publishedList, Digest.Sha256.digest⟩

end Credentials.Mnemonic
