/-!
Lines for a terminal. A line is made of pieces that have a style; it is written with escape
sequences, or without them as its mere text.
-/

namespace Credentials.CommandLine

inductive Colour where
  | green
  | yellow
  | blue
  | cyan
  deriving DecidableEq, Repr

def Colour.code : Colour → String
  | green => "32"
  | yellow => "33"
  | blue => "34"
  | cyan => "36"

structure Style where
  bold : Bool := false
  dim : Bool := false
  colour : Option Colour := none
  deriving DecidableEq, Repr

def Style.codes (s : Style) : List String :=
  (if s.bold then ["1"] else []) ++ (if s.dim then ["2"] else []) ++
    (s.colour.map Colour.code).toList

structure Piece where
  text : String
  style : Style := {}
  deriving DecidableEq, Repr

/-- A text without style stays as it is even among colours; one with a style gets its escape
sequences even if it is empty. -/
def Piece.shown (colours : Bool) (p : Piece) : String :=
  if colours && !p.style.codes.isEmpty then
    "\x1b[" ++ String.intercalate ";" p.style.codes ++ "m" ++ p.text ++ "\x1b[0m"
  else p.text

abbrev Line := List Piece

namespace Line

def shown (colours : Bool) (line : Line) : String := String.join (line.map (Piece.shown colours))

def textOf (colours : Bool) (lines : List Line) : String :=
  String.join (lines.map fun line => line.shown colours ++ "\n")

def padded (width : Nat) (s : String) : String :=
  s ++ String.ofList (List.replicate (width - s.length) ' ')

def blank : Line := []

def plain (s : String) : Line := [⟨s, {}⟩]

def dimmed (s : String) : Line := [⟨s, { dim := true }⟩]

def heading (s : String) : Line := [⟨s, { bold := true, colour := some .cyan }⟩]

def secret (s : String) : Line := [⟨s, { bold := true, colour := some .green }⟩]

def success (s : String) : Line := ⟨"✓", { colour := some .green }⟩ :: plain (" " ++ s)

def info (s : String) : Line := ⟨"i", { colour := some .blue }⟩ :: plain (" " ++ s)

def warning (s : String) : Line :=
  let yellow : Style := { colour := some .yellow }
  [⟨"!", yellow⟩, ⟨" ", {}⟩, ⟨s, yellow⟩]

def entry (key : String) (value : Line) : Line :=
  plain "  " ++ [⟨padded 12 (key ++ ":"), { bold := true }⟩] ++ plain " " ++ value

end Line

end Credentials.CommandLine
