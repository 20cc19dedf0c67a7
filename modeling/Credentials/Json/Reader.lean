import Credentials.Decoding.Shape
import Credentials.Json.Number

/-!
Reading JSON text into a tree.
-/

namespace Credentials.Json

open Decoding (Node Decode Mismatch)

def isSpace (c : Char) : Bool := c == ' ' || c == '\n' || c == '\t' || c == '\r'

def skipSpace (s : List Char) : List Char := s.dropWhile isSpace

/-- A piece of a string: a character, or a code unit given by `\u`. -/
inductive Piece where
  | char (c : Char)
  | unit (n : Nat)
  deriving DecidableEq, Repr

def hexValue (c : Char) : Option Nat :=
  if '0' ≤ c ∧ c ≤ '9' then some (c.toNat - 48)
  else if 'a' ≤ c ∧ c ≤ 'f' then some (c.toNat - 87)
  else if 'A' ≤ c ∧ c ≤ 'F' then some (c.toNat - 55)
  else none

def hex4 (a b c d : Char) : Option Nat := do
  return ((← hexValue a) * 16 + (← hexValue b)) * 256 + ((← hexValue c) * 16 + (← hexValue d))

def unescape (c : Char) : Option Char :=
  match c with
  | '"' => some '"'
  | '\\' => some '\\'
  | '/' => some '/'
  | 'b' => some (Char.ofNat 8)
  | 'f' => some (Char.ofNat 12)
  | 'n' => some '\n'
  | 'r' => some '\r'
  | 't' => some '\t'
  | _ => none

def readPieces (done : List Piece) : List Char → Option (List Piece × List Char)
  | [] => none
  | '"' :: s => some (done, s)
  | '\\' :: 'u' :: a :: b :: c :: d :: s =>
    match hex4 a b c d with
    | some n => readPieces (.unit n :: done) s
    | none => none
  | '\\' :: c :: s =>
    match unescape c with
    | some d => readPieces (.char d :: done) s
    | none => none
  | c :: s => if c.toNat < 0x20 then none else readPieces (.char c :: done) s

/-- Puts pieces, last one first, together in front of what follows them. A high surrogate needs a
low one after it, and a low one a high one before it. -/
def joinPieces (done : List Char) : List Piece → Option (List Char)
  | [] => some done
  | .char c :: ps => joinPieces (c :: done) ps
  | .unit low :: ps =>
    if 0xdc00 ≤ low ∧ low ≤ 0xdfff then
      match ps with
      | .unit high :: ps =>
        if 0xd800 ≤ high ∧ high ≤ 0xdbff then
          joinPieces (Char.ofNat (0x10000 + (high - 0xd800) * 0x400 + (low - 0xdc00)) :: done) ps
        else none
      | _ => none
    else if 0xd800 ≤ low ∧ low ≤ 0xdbff then none
    else joinPieces (Char.ofNat low :: done) ps

def contentOf (pieces : List Piece) : Option String :=
  (joinPieces [] pieces).map String.ofList

def textNode (pieces : List Piece) : Node :=
  match contentOf pieces with
  | some s => .text s
  | none => .unusable

def digits (s : List Char) : List Char × List Char :=
  (s.takeWhile Char.isDigit, s.dropWhile Char.isDigit)

def readDigits (s : List Char) : Option (List Char × List Char) :=
  match digits s with
  | ([], _) => none
  | found => some found

/-- The digits before the point: a zero stands alone. -/
def readWhole (s : List Char) : Option (List Char × List Char) :=
  match readDigits s with
  | some ('0' :: _ :: _, _) => none
  | found => found

def readFraction (s : List Char) : Option (Option (List Char) × List Char) :=
  match s with
  | '.' :: t => do
    let (ds, rest) ← readDigits t
    return (some ds, rest)
  | _ => some (none, s)

def readSign (s : List Char) : Bool × List Char :=
  match s with
  | '-' :: t => (true, t)
  | '+' :: t => (false, t)
  | _ => (false, s)

def readExponent (s : List Char) : Option (Option (Bool × List Char) × List Char) :=
  match s with
  | e :: t =>
    if e = 'e' ∨ e = 'E' then do
      let (isNegative, t) := readSign t
      let (ds, rest) ← readDigits t
      return (some (isNegative, ds), rest)
    else some (none, s)
  | [] => some (none, s)

def readUnsigned (negative : Bool) (s : List Char) : Option (Numeral × List Char) := do
  let (whole, s) ← readWhole s
  let (fraction, s) ← readFraction s
  let (exponent, s) ← readExponent s
  return (⟨negative, whole, fraction, exponent⟩, s)

def readNumeral (s : List Char) : Option (Numeral × List Char) :=
  match s with
  | '-' :: t => readUnsigned true t
  | _ => readUnsigned false s

/-- Members up to the first one whose name has no content. -/
def named : List (Option String × Node) → List (String × Node)
  | (some name, value) :: members => (name, value) :: named members
  | _ => []

def mapOf (members : List (Option String × Node)) (closed : Bool) : Node :=
  if closed && members.any (·.1.isNone) then .misnamed (named members)
  else .map (named members) closed

mutual

/-- Reads one value; the rest is empty after a fault. -/
def readValue : Nat → List Char → Node × List Char
  | 0, _ => (.broken, [])
  | fuel + 1, s =>
    match skipSpace s with
    | '"' :: t =>
      match readPieces [] t with
      | some (pieces, rest) => (textNode pieces, rest)
      | none => (.broken, [])
    | '[' :: t =>
      match skipSpace t with
      | ']' :: rest => (.sequence [] true, rest)
      | u => readItems fuel [] u
    | '\x7b' :: t =>
      match skipSpace t with
      | '\x7d' :: rest => (.map [] true, rest)
      | u => readMembers fuel [] u
    | 'n' :: 'u' :: 'l' :: 'l' :: rest => (.null, rest)
    | 't' :: 'r' :: 'u' :: 'e' :: rest => (.boolean true, rest)
    | 'f' :: 'a' :: 'l' :: 's' :: 'e' :: rest => (.boolean false, rest)
    | t =>
      match readNumeral t with
      | some (n, rest) => (n.toNode, rest)
      | none => (.broken, [])

def readItems : Nat → List Node → List Char → Node × List Char
  | 0, done, _ => (.sequence done.reverse false, [])
  | fuel + 1, done, s =>
    let (item, rest) := readValue fuel s
    let done := item :: done
    match skipSpace rest with
    | ']' :: rest => (.sequence done.reverse true, rest)
    | ',' :: rest =>
      match skipSpace rest with
      | ']' :: _ => (.sequence done.reverse false, [])
      | rest => readItems fuel done rest
    | _ => (.sequence done.reverse false, [])

/-- Reads a member and those after it. A member whose colon is missing has a broken value. -/
def readMembers : Nat → List (Option String × Node) → List Char → Node × List Char
  | 0, done, _ => (mapOf done.reverse false, [])
  | fuel + 1, done, s =>
    match s with
    | '"' :: t =>
      match readPieces [] t with
      | none => (mapOf done.reverse false, [])
      | some (pieces, rest) =>
        let name := contentOf pieces
        match skipSpace rest with
        | ':' :: rest =>
          let (value, rest) := readValue fuel rest
          let done := (name, value) :: done
          match skipSpace rest with
          | '\x7d' :: rest => (mapOf done.reverse true, rest)
          | ',' :: rest => readMembers fuel done (skipSpace rest)
          | _ => (mapOf done.reverse false, [])
        | _ => (mapOf ((name, .broken) :: done).reverse false, [])
    | _ => (mapOf done.reverse false, [])

end

def read (text : String) : Node × Bool :=
  let s := text.toList
  let (node, rest) := readValue (s.length + 1) s
  (node, (skipSpace rest).isEmpty)

/-- A whole text as one value. Items past the fields of a structure are no JSON for it. -/
def decodeText {α : Type} (decode : Decode α) (text : String) : Except Mismatch α :=
  let (node, isAll) := read text
  match decode node with
  | .ok value => if isAll then .ok value else .error .malformed
  | .error mismatch =>
    match mismatch.root with
    | .surplusItems _ => .error .malformed
    | _ => .error mismatch

end Credentials.Json
