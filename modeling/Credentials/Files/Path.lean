import Credentials.Text.Blank

/-!
Paths as text. A path is cut at its slashes; empty pieces and single dots stand for nothing, but
for a dot in front of a relative path.
-/

namespace Credentials.Files

abbrev Path := List Char

namespace Path

def isStep (piece : List Char) : Bool := !piece.isEmpty && piece != ['.']

/-- The pieces of a path, last one first, without those at its end that stand for nothing. -/
def piecesBack (path : Path) : List (List Char) :=
  let pieces := Text.fields '/' path
  let keep := if pieces.head? = some ['.'] then 1 else 0
  (pieces.drop keep).reverse.dropWhile (!isStep ·) ++ (pieces.take keep)

/-- The path without its last step; a path that has none has no parent. -/
def parent? (path : Path) : Option Path :=
  match piecesBack path with
  | [] => none
  | _ :: rest =>
    let leading := path.takeWhile (· == '/')
    let kept :=
      if rest.getLast? = some ['.'] then rest.dropLast.dropWhile (!isStep ·) ++ [['.']]
      else rest.dropWhile (!isStep ·)
    if kept.isEmpty then some (leading.take 1)
    else some (['/'].intercalate kept.reverse)

def fileName? (path : Path) : Option (List Char) :=
  match piecesBack path with
  | name :: _ => if name = ['.'] ∨ name = ['.', '.'] then none else some name
  | [] => none

def join (path : Path) (name : List Char) : Path :=
  if path.isEmpty then name
  else if path.getLast? = some '/' then path ++ name
  else path ++ '/' :: name

/-- The path with its name replaced, or, where it ends in none, with a name added. -/
def withFileName (path : Path) (name : List Char) : Path :=
  match fileName? path with
  | some _ => join ((parent? path).getD []) name
  | none => join path name

end Path

end Credentials.Files
