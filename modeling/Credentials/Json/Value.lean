import Credentials.Time.Printer
import Credentials.Text.Hex

/-!
JSON values to be written, and their two written forms.
-/

namespace Credentials.Json

inductive Value where
  | null
  | boolean (b : Bool)
  | natural (n : Nat)
  | text (s : String)
  | array (items : List Value)
  | object (members : List (String × Value))

def escapeChar (c : Char) : List Char :=
  if c = '"' then ['\\', '"']
  else if c = '\\' then ['\\', '\\']
  else if c = '\n' then ['\\', 'n']
  else if c = '\t' then ['\\', 't']
  else if c = '\r' then ['\\', 'r']
  else if c.toNat = 8 then ['\\', 'b']
  else if c.toNat = 12 then ['\\', 'f']
  else if c.toNat < 0x20 then
    ['\\', 'u', '0', '0', Text.Hex.digit (c.toNat / 16), Text.Hex.digit (c.toNat % 16)]
  else [c]

def quote (s : String) : List Char := '"' :: s.toList.flatMap escapeChar ++ ['"']

def naturalText (n : Nat) : List Char := Nat.toDigits 10 n

namespace Value

mutual

def compact : Value → List Char
  | null => "null".toList
  | boolean b => if b then "true".toList else "false".toList
  | natural n => naturalText n
  | text s => quote s
  | array items => '[' :: compactItems true items ++ [']']
  | object members => '\x7b' :: compactMembers true members ++ ['\x7d']

def compactItems (isFirst : Bool) : List Value → List Char
  | [] => []
  | v :: vs => (if isFirst then [] else [',']) ++ compact v ++ compactItems false vs

def compactMembers (isFirst : Bool) : List (String × Value) → List Char
  | [] => []
  | (key, v) :: ms =>
    (if isFirst then [] else [',']) ++ quote key ++ ':' :: compact v ++ compactMembers false ms

end

def newline (depth : Nat) : List Char := '\n' :: List.replicate (2 * depth) ' '

mutual

/-- One item or member a line, two spaces a level; what is empty stays on its line. -/
def pretty (depth : Nat) : Value → List Char
  | array [] => ['[', ']']
  | array items => '[' :: prettyItems (depth + 1) true items ++ newline depth ++ [']']
  | object [] => ['\x7b', '\x7d']
  | object members =>
    '\x7b' :: prettyMembers (depth + 1) true members ++ newline depth ++ ['\x7d']
  | null => "null".toList
  | boolean b => if b then "true".toList else "false".toList
  | natural n => naturalText n
  | text s => quote s

def prettyItems (depth : Nat) (isFirst : Bool) : List Value → List Char
  | [] => []
  | v :: vs =>
    (if isFirst then [] else [',']) ++ newline depth ++ pretty depth v ++ prettyItems depth false vs

def prettyMembers (depth : Nat) (isFirst : Bool) : List (String × Value) → List Char
  | [] => []
  | (key, v) :: ms =>
    (if isFirst then [] else [',']) ++ newline depth ++ quote key ++ ':' :: ' ' :: pretty depth v ++
      prettyMembers depth false ms

end

def compactText (v : Value) : String := String.ofList v.compact

def prettyText (v : Value) : String := String.ofList (v.pretty 0)

end Value

end Credentials.Json
