/-!
White space as Unicode defines it, and the two uses this library has for it: trimming a text and
cutting a phrase into words.
-/

namespace Credentials.Text

/-- The characters with the property `White_Space`: separators and the controls from tab to
carriage return, but neither the zero-width space nor the byte-order mark. -/
def isBlank (c : Char) : Bool :=
  let n := c.toNat
  (0x9 ≤ n && n ≤ 0xd) || n == 0x20 || n == 0x85 || n == 0xa0 || n == 0x1680 ||
    (0x2000 ≤ n && n ≤ 0x200a) || n == 0x2028 || n == 0x2029 || n == 0x202f || n == 0x205f ||
    n == 0x3000

def trimStart (s : List Char) : List Char := s.dropWhile isBlank

def trimEnd (s : List Char) : List Char := (s.reverse.dropWhile isBlank).reverse

def trim (s : List Char) : List Char := trimEnd (trimStart s)

def runs (p : Char → Bool) : List Char → List (List Char)
  | [] => []
  | c :: s =>
    if p c then runs p s
    else match s with
      | [] => [[c]]
      | d :: t =>
        if p d then [c] :: runs p (d :: t)
        else match runs p (d :: t) with
          | [] => [[c]]
          | w :: ws => (c :: w) :: ws

def words (s : List Char) : List (List Char) := runs isBlank s

/-- The fields between the separators, empty ones kept. -/
def fields (sep : Char) : List Char → List (List Char)
  | [] => [[]]
  | c :: s =>
    match fields sep s with
    | [] => [[c]]
    | f :: fs => if c = sep then [] :: f :: fs else (c :: f) :: fs

end Credentials.Text
