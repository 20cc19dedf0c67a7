import Credentials.Decimal.FloatText
import Credentials.Text.Hex

/-!
What can keep a tree from being taken for a typed value.
-/

namespace Credentials.Decoding

inductive Found where
  | null
  | boolean (b : Bool)
  | integer (n : Int)
  | float (text : String)
  | text (s : String)
  | sequence
  | map
  | bareChoice
  deriving DecidableEq, Repr

def Found.message : Found → String
  | null => "null"
  | boolean b => "boolean `" ++ toString b ++ "`"
  | integer n => "integer `" ++ toString n ++ "`"
  | float t => "floating point `" ++ t ++ "`"
  | text s => "string " ++ Text.quoted s
  | sequence => "sequence"
  | map => "map"
  | bareChoice => "unit variant"

inductive Mismatch where
  | invalidType (found : Found) (expected : String)
  | invalidValue (found : Found) (expected : String)
  | invalidLength (length : Nat) (expected : String)
  | missingField (name : String)
  | duplicateField (name : String)
  | unknownVariant (name : String) (known : List String)
  | invalidTimestamp (text : String)
  | invalidSecret (cause : Text.Hex.Error)
  /-- The text is not of the format at all. -/
  | malformed
  /-- A structure written as an array of so many items, more than it has fields. -/
  | surplusItems (length : Nat)
  | within (key : String) (cause : Mismatch)
  deriving DecidableEq, Repr

def oneOf : List String → String
  | [a] => "`" ++ a ++ "`"
  | [a, b] => "`" ++ a ++ "` or `" ++ b ++ "`"
  | names => "one of " ++ String.intercalate ", " (names.map fun a => "`" ++ a ++ "`")

def Mismatch.message : Mismatch → String
  | invalidType found expected => "invalid type: " ++ found.message ++ ", expected " ++ expected
  | invalidValue found expected => "invalid value: " ++ found.message ++ ", expected " ++ expected
  | invalidLength length expected =>
    "invalid length " ++ toString length ++ ", expected " ++ expected
  | missingField name => "missing field `" ++ name ++ "`"
  | duplicateField name => "duplicate field `" ++ name ++ "`"
  | unknownVariant name known =>
    "unknown variant `" ++ name ++ "`, expected " ++ oneOf known
  | invalidTimestamp text => "invalid timestamp " ++ Text.quoted text
  | invalidSecret cause => "invalid hex secret: " ++ cause.message
  | malformed => "syntax"
  | surplusItems length =>
    "invalid length " ++ toString length ++ ", expected fewer elements in array"
  | within _ cause => cause.message

def Mismatch.keys : Mismatch → List String
  | within key cause => key :: cause.keys
  | _ => []

def Mismatch.root : Mismatch → Mismatch
  | within _ cause => cause.root
  | fault => fault

end Credentials.Decoding
