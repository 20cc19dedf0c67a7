import Credentials.Json.Reader
import Credentials.Json.Value
import Credentials.Store.Basic

/-!
A list of texts as a document.
-/

namespace Credentials.Store

def textListValue (texts : List String) : Json.Value := .array (texts.map .text)

/-- A list of texts kept as indented JSON. -/
def textList : Format (List String) where
  empty := []
  ofText := Json.decodeText (Decoding.sequence Decoding.text)
  toText texts := (textListValue texts).prettyText

end Credentials.Store
