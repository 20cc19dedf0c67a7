import Credentials.Time.Printer
import Credentials.Time.Reader
import Credentials.Toml.Tree

/-!
The pieces of TOML text: white space and comments, keys, strings, numbers and times. A reader gives
what it read and the rest of the text, and nothing where the text is not TOML.
-/

namespace Credentials.Toml

open Text (decimal)
open Time (literal padded)

def isBlank (c : Char) : Bool := c == ' ' || c == '\t'

def skipBlanks (s : List Char) : List Char := s.dropWhile isBlank

def isPlain (c : Char) : Bool := c == '\t' || (0x20 ≤ c.toNat && c.toNat != 0x7f)

def newline : List Char → Option (List Char)
  | '\n' :: s => some s
  | '\r' :: '\n' :: s => some s
  | _ => none

def skipComment : List Char → List Char
  | '#' :: s => s.dropWhile isPlain
  | s => s

def lineEnd (s : List Char) : Option (List Char) :=
  match skipComment (skipBlanks s) with
  | [] => some []
  | rest => newline rest

def skipLines : Nat → List Char → Option (List Char)
  | 0, s => some s
  | fuel + 1, s =>
    match skipBlanks s with
    | '#' :: t => do
      let rest ← newline (skipComment ('#' :: t))
      skipLines fuel rest
    | rest =>
      match newline rest with
      | some after => skipLines fuel after
      | none => if rest.head? = some '\r' then none else some rest

def hexValue (c : Char) : Option Nat :=
  if '0' ≤ c ∧ c ≤ '9' then some (c.toNat - 48)
  else if 'a' ≤ c ∧ c ≤ 'f' then some (c.toNat - 87)
  else if 'A' ≤ c ∧ c ≤ 'F' then some (c.toNat - 55)
  else none

def codedChar (width : Nat) (s : List Char) : Option (Char × List Char) := do
  let digits ← (s.take width).mapM hexValue
  let code := digits.foldl (fun n d => 16 * n + d) 0
  if digits.length = width ∧ code.isValidChar then some (Char.ofNat code, s.drop width) else none

def escaped : List Char → Option (Char × List Char)
  | 'b' :: s => some (Char.ofNat 8, s)
  | 'f' :: s => some (Char.ofNat 12, s)
  | 'n' :: s => some ('\n', s)
  | 'r' :: s => some ('\r', s)
  | 't' :: s => some ('\t', s)
  | '"' :: s => some ('"', s)
  | '\\' :: s => some ('\\', s)
  | 'u' :: s => codedChar 4 s
  | 'U' :: s => codedChar 8 s
  | _ => none

/-- The rest of a string between double quotes; `done` is what was read of it, backwards. -/
def basicBody : Nat → List Char → List Char → Option (String × List Char)
  | 0, _, _ => none
  | fuel + 1, done, s =>
    match s with
    | '"' :: rest => some (String.ofList done.reverse, rest)
    | '\\' :: t => do
      let (c, rest) ← escaped t
      basicBody fuel (c :: done) rest
    | c :: rest => if isPlain c then basicBody fuel (c :: done) rest else none
    | [] => none

def literalBody (done : List Char) : List Char → Option (String × List Char)
  | [] => none
  | c :: s =>
    if c = '\'' then some (String.ofList done.reverse, s)
    else if isPlain c then literalBody (c :: done) s
    else none

/-- Takes the quotes that end a string of several lines: three, and up to two in front of them that
belong to the string. -/
def closingQuotes (quote : Char) (s : List Char) : Option (List Char × List Char) :=
  let run := (s.takeWhile (· == quote)).length
  if run < 3 then none
  else
    let own := min (run - 3) 2
    some (List.replicate own quote, s.drop (own + 3))

def skipBlankLines : Nat → List Char → List Char
  | 0, s => s
  | fuel + 1, s =>
    match newline (skipBlanks s) with
    | some rest => skipBlankLines fuel rest
    | none => skipBlanks s

/-- A backslash at the end of a line takes away the line end and all white space after it. -/
def joinedLine (s : List Char) : Option (List Char) :=
  (newline (skipBlanks s)).map fun rest => skipBlankLines (rest.length + 1) rest

def longBody (quote : Char) : Nat → List Char → List Char → Option (String × List Char)
  | 0, _, _ => none
  | fuel + 1, done, s =>
    match closingQuotes quote s with
    | some (own, rest) => some (String.ofList (done.reverse ++ own), rest)
    | none =>
      match newline s with
      | some rest => longBody quote fuel ('\n' :: done) rest
      | none =>
        match s with
        | [] => none
        | c :: t =>
          if c = '\\' ∧ quote = '"' then
            match joinedLine t with
            | some rest => longBody quote fuel done rest
            | none => do
              let (d, rest) ← escaped t
              longBody quote fuel (d :: done) rest
          else if isPlain c then longBody quote fuel (c :: done) t
          else none

/-- A line end right after the opening quotes does not belong to the string. -/
def longString (quote : Char) (s : List Char) : Option (String × List Char) :=
  longBody quote (s.length + 1) [] ((newline s).getD s)

def shortString (quote : Char) (s : List Char) : Option (String × List Char) :=
  if quote = '"' then basicBody (s.length + 1) [] s else literalBody [] s

def string : List Char → Option (String × List Char)
  | a :: b :: c :: s =>
    if a = b ∧ b = c then longString a s else shortString a (b :: c :: s)
  | a :: s => shortString a s
  | [] => none

def isBare (c : Char) : Bool := c.isAlphanum || c == '-' || c == '_'

def simpleKey : List Char → Option (String × List Char)
  | '"' :: s => shortString '"' s
  | '\'' :: s => shortString '\'' s
  | s =>
    let name := s.takeWhile isBare
    if name.isEmpty then none else some (String.ofList name, s.dropWhile isBare)

def keyParts : Nat → List Char → Option (List String × List Char)
  | 0, _ => none
  | fuel + 1, s => do
    let (name, rest) ← simpleKey (skipBlanks s)
    match skipBlanks rest with
    | '.' :: rest => do
      let (names, rest) ← keyParts fuel rest
      some (name :: names, rest)
    | rest => some ([name], rest)

/-- How deep keys and values may nest: less than this. -/
def depthLimit : Nat := 80

def key (s : List Char) : Option (List String × List Char) := do
  let (names, rest) ← keyParts depthLimit s
  if names.length < depthLimit then some (names, rest) else none

/-- Digits after a first one, with single underscores between them. Nothing if an underscore has no
digit after it. -/
def moreDigits (isDigit : Char → Bool) (done : List Char) :
    List Char → Option (List Char × List Char)
  | [] => some (done.reverse, [])
  | '_' :: c :: s => if isDigit c then moreDigits isDigit (c :: done) s else none
  | c :: s =>
    if isDigit c then moreDigits isDigit (c :: done) s
    else if c = '_' then none
    else some (done.reverse, c :: s)

def digitRun (isDigit : Char → Bool) : List Char → Option (List Char × List Char)
  | c :: s => if isDigit c then moreDigits isDigit [c] s else none
  | [] => none

def isSign (c : Char) : Bool := c == '+' || c == '-'

def sign : List Char → Bool × List Char
  | c :: s => if isSign c then (c == '-', s) else (false, c :: s)
  | [] => (false, [])

def integerOf (negative : Bool) (n : Nat) : Option Tree :=
  let v : Int := if negative then -(n : Int) else n
  if Text.fits64 v then some (.integer v) else none

def basedInteger (base : Nat) (s : List Char) : Option (Tree × List Char) := do
  let isDigit c := (hexValue c).any (· < base)
  let (digits, rest) ← digitRun isDigit s
  let n := digits.foldl (fun n c => base * n + (hexValue c).getD 0) 0
  let value ← integerOf false n
  some (value, rest)

/-- The number `mantissa · 10 ^ exponent`, which must not be too large if it is positive. -/
def floatOf (negative : Bool) (mantissa : Nat) (exponent : Int) : Option Tree :=
  let magnitude : Float :=
    if mantissa = 0 then 0
    else
      let lead := exponent + (Nat.toDigits 10 mantissa).length
      if 400 < lead then 1.0 / 0.0
      else if lead < -400 then 0
      else if 0 ≤ exponent then Float.ofScientific mantissa false exponent.toNat
      else Float.ofScientific mantissa true exponent.natAbs
  if negative then some (.float (-magnitude))
  else if magnitude.isInf then none
  else some (.float magnitude)

def exponentPart : List Char → Option (Option Int × List Char)
  | c :: s =>
    if c = 'e' ∨ c = 'E' then do
      let (negative, s) := sign s
      let (digits, rest) ← digitRun Char.isDigit s
      let n : Int := min (decimal digits) 1000000
      some (some (if negative then -n else n), rest)
    else some (none, c :: s)
  | [] => some (none, [])

def specialFloat (s : List Char) : Option (Tree × List Char) :=
  let (negative, s) := sign s
  let signed (x : Float) : Tree := .float (if negative then -x else x)
  match s with
  | 'i' :: 'n' :: 'f' :: rest => some (signed (1.0 / 0.0), rest)
  | 'n' :: 'a' :: 'n' :: rest => some (signed (0.0 / 0.0), rest)
  | _ => none

/-- The digits of a decimal integer: no zero in front of others. -/
def wholePart (s : List Char) : Option (List Char × List Char) :=
  match s with
  | '0' :: rest => some (['0'], rest)
  | _ => digitRun Char.isDigit s

def number (s : List Char) : Option (Tree × List Char) :=
  match s with
  | '0' :: 'x' :: t => basedInteger 16 t
  | '0' :: 'o' :: t => basedInteger 8 t
  | '0' :: 'b' :: t => basedInteger 2 t
  | _ =>
    let (negative, t) := sign s
    if !(t.head?.any Char.isDigit) then specialFloat s
    else do
      let (whole, t) ← wholePart t
      let (fraction, t) ← match t with
        | '.' :: u => (digitRun Char.isDigit u).map fun (ds, rest) => (some ds, rest)
        | _ => some (none, t)
      let (exponent, t) ← exponentPart t
      if fraction.isNone ∧ exponent.isNone then do
        let value ← integerOf negative (decimal whole)
        some (value, t)
      else
        let decimals := fraction.getD []
        let value ← floatOf negative (decimal (whole ++ decimals))
          (exponent.getD 0 - decimals.length)
        some (value, t)

def twoDigits (least most : Nat) (s : List Char) : Option (Nat × List Char) := do
  let (n, rest) ← Time.number 2 2 s
  if least ≤ n ∧ n ≤ most then some (n, rest) else none

/-- Decimals of a second as they are written out, nine at most. -/
def decimals : List Char → Option (List Char × List Char)
  | '.' :: s =>
    let digits := s.takeWhile Char.isDigit
    if digits.isEmpty then none
    else
      let kept := ((digits.take 9).reverse.dropWhile (· == '0')).reverse
      some (if kept.isEmpty then [] else '.' :: kept, s.dropWhile Char.isDigit)
  | s => some ([], s)

def clock (s : List Char) : Option (List Char × List Char) := do
  let (hour, s) ← twoDigits 0 23 s
  let s ← literal ':' s
  let (minute, s) ← twoDigits 0 59 s
  let s ← literal ':' s
  let (second, s) ← twoDigits 0 60 s
  let (fraction, s) ← decimals s
  some (padded 2 hour ++ ':' :: padded 2 minute ++ ':' :: padded 2 second ++ fraction, s)

def zone : List Char → Option (List Char × List Char)
  | c :: s =>
    if c = 'Z' ∨ c = 'z' then some (['Z'], s)
    else if isSign c then do
      let (hour, s) ← twoDigits 0 23 s
      let s ← literal ':' s
      let (minute, s) ← twoDigits 0 59 s
      let isZero := hour = 0 ∧ minute = 0
      some ((if isZero then '+' else c) :: padded 2 hour ++ ':' :: padded 2 minute, s)
    else some ([], c :: s)
  | [] => some ([], [])

def day (s : List Char) : Option (List Char × List Char) := do
  let (year, s) ← Time.number 4 4 s
  let s ← literal '-' s
  let (month, s) ← twoDigits 1 12 s
  let s ← literal '-' s
  let (day, s) ← twoDigits 1 31 s
  let date : Time.Date := ⟨year, month, day⟩
  if date.isValid then some (padded 4 year ++ '-' :: padded 2 month ++ '-' :: padded 2 day, s)
  else none

def startsClock (s : List Char) : Bool :=
  match twoDigits 0 23 s with
  | some (_, ':' :: _) => true
  | _ => false

def dayTime (s : List Char) : Option (Tree × List Char) := do
  let (shown, rest) ← day s
  let bare := some (Tree.time (String.ofList shown), rest)
  match rest with
  | c :: t =>
    if (c = 'T' ∨ c = 't' ∨ c = ' ') ∧ startsClock t then do
      let (clockShown, t) ← clock t
      let (zoneShown, t) ← zone t
      some (.time (String.ofList (shown ++ 'T' :: clockShown ++ zoneShown)), t)
    else bare
  | [] => bare

def startsDay (s : List Char) : Bool :=
  match Time.number 4 4 s with
  | some (_, '-' :: _) => true
  | _ => false

/-- What starts with a sign or a digit: a date, a time of day or a number. -/
def numberOrTime (s : List Char) : Option (Tree × List Char) :=
  if startsDay s then dayTime s
  else if startsClock s then (clock s).map fun (shown, rest) => (.time (String.ofList shown), rest)
  else number s

end Credentials.Toml
