import Credentials.Toml.Tree

/-!
Strings and arrays of strings as TOML text. A string is written in the plainest form that can hold
it; escapes are the last resort.
-/

namespace Credentials.Toml

def needsEscape (c : Char) : Bool :=
  (c.toNat < 0x20 && c != '\t' && c != '\n') || c.toNat == 0x7f

def longestRun (c : Char) (s : List Char) : Nat :=
  (s.foldl (fun (best, run) d => if d = c then (max best (run + 1), run + 1) else (best, 0))
    (0, 0)).1

inductive Form where
  | basic
  | literal
  | longBasic
  | longLiteral
  deriving DecidableEq, Repr

/-- The first form that needs no escape, but for tabs; else a form with escapes. -/
def formOf (s : List Char) : Form :=
  let controls := s.any needsEscape
  let lines := s.contains '\n'
  if !controls && !s.contains '\\' && !s.contains '"' && !lines then .basic
  else if !controls && !s.contains '\'' && !lines then .literal
  else if !controls && !s.contains '\\' && longestRun '"' s ≤ 2 then .longBasic
  else if !controls && longestRun '\'' s ≤ 2 then .longLiteral
  else if lines then .longBasic
  else .basic

def upperHexDigit (n : Nat) : Char := if n < 10 then Char.ofNat (48 + n) else Char.ofNat (55 + n)

/-- Escapes what cannot stand between double quotes; `allowed` quotes may stand in a row, of which
`run` have just been written. Line feeds stay where `isLong`. -/
def escape (isLong : Bool) (run : Nat) : List Char → List Char
  | [] => []
  | c :: s =>
    if c = '"' then
      if run < (if isLong then 2 else 0) then '"' :: escape isLong (run + 1) s
      else '\\' :: '"' :: escape isLong 0 s
    else
      let shown :=
        if c.toNat = 8 then ['\\', 'b']
        else if c = '\t' then ['\\', 't']
        else if c = '\n' then (if isLong then ['\n'] else ['\\', 'n'])
        else if c.toNat = 12 then ['\\', 'f']
        else if c = '\r' then ['\\', 'r']
        else if c = '\\' then ['\\', '\\']
        else if needsEscape c then
          ['\\', 'u', '0', '0', upperHexDigit (c.toNat / 16), upperHexDigit (c.toNat % 16)]
        else [c]
      shown ++ escape isLong 0 s

/-- A string in its form. A long form that holds a line feed starts on a line of its own. -/
def stringText (text : String) : List Char :=
  let s := text.toList
  let start := if s.contains '\n' then ['\n'] else []
  match formOf s with
  | .basic => '"' :: escape false 0 s ++ ['"']
  | .literal => '\'' :: s ++ ['\'']
  | .longBasic => ['"', '"', '"'] ++ start ++ escape true 0 s ++ ['"', '"', '"']
  | .longLiteral => ['\'', '\'', '\''] ++ start ++ s ++ ['\'', '\'', '\'']

/-- Strings in brackets: on one line up to one of them, else one a line. -/
def stringsText : List String → List Char
  | [] => ['[', ']']
  | [text] => '[' :: stringText text ++ [']']
  | texts =>
    '[' :: '\n' :: texts.flatMap (fun t => "    ".toList ++ stringText t ++ [',', '\n']) ++ [']']

end Credentials.Toml
