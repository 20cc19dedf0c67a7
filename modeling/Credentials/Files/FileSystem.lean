import Credentials.Files.Fault
import Credentials.Files.Path
import Credentials.Text.Hex

/-!
A tree of files and directories, and the few things that are done to it.
-/

namespace Credentials.Files

/-- Where a file or directory is: the names that lead to it from the root. -/
abbrev Place := List (List Char)

inductive Content where
  | text (s : String)
  | binary (bytes : List UInt8)
  deriving DecidableEq, Repr

inductive Entry where
  | file (content : Content)
  | directory
  deriving DecidableEq, Repr

structure FileSystem where
  entries : List (Place × Entry)
  current : Place
  deriving DecidableEq, Repr

namespace FileSystem

def bare (current : Place) : FileSystem where
  entries := (List.range current.length).map fun i => (current.take (i + 1), .directory)
  current := current

/-- What is at a place; the root is always there. -/
def entry? (fs : FileSystem) (place : Place) : Option Entry :=
  if place.isEmpty then some .directory else fs.entries.lookup place

def setEntry (fs : FileSystem) (place : Place) (entry : Entry) : FileSystem :=
  { fs with
    entries :=
      if (fs.entries.lookup place).isSome then
        fs.entries.map fun e => if e.1 = place then (place, entry) else e
      else fs.entries ++ [(place, entry)] }

def step (fs : FileSystem) (place : Place) (piece : List Char) : Except Fault Place :=
  match fs.entry? place with
  | none => .error .notFound
  | some (.file _) => .error .notADirectory
  | some .directory =>
    if piece = ['.'] then .ok place
    else if piece = ['.', '.'] then .ok place.dropLast
    else if 255 < (Text.utf8 piece).length then .error .nameTooLong
    else .ok (place ++ [piece])

def resolve (fs : FileSystem) (path : Path) : Except Fault Place :=
  if path.contains (Char.ofNat 0) then .error .nulInPath
  else if path.isEmpty then .error .notFound
  else if 4096 ≤ (Text.utf8 path).length then .error .nameTooLong
  else
    let start := if path.head? = some '/' then [] else fs.current
    ((Text.fields '/' path).filter (!·.isEmpty)).foldlM fs.step start

def endsInSlash (path : Path) : Bool := path.getLast? == some '/'

def find (fs : FileSystem) (path : Path) : Except Fault Entry := do
  match fs.entry? (← fs.resolve path) with
  | none => .error .notFound
  | some .directory => .ok .directory
  | some (.file content) =>
    if endsInSlash path then .error .notADirectory else .ok (.file content)

def isDirectory (fs : FileSystem) (path : Path) : Bool :=
  match fs.find path with
  | .ok .directory => true
  | _ => false

def isPresent (fs : FileSystem) (path : Path) : Bool :=
  match fs.find path with
  | .ok _ => true
  | .error _ => false

def read (fs : FileSystem) (path : Path) : Except Fault Content := do
  match ← fs.find path with
  | .directory => .error .isADirectory
  | .file content => .ok content

def readText (fs : FileSystem) (path : Path) : Except Fault String := do
  match ← fs.read path with
  | .text s => .ok s
  | .binary _ => .error .notUtf8

def touch (fs : FileSystem) (path : Path) : Except Fault FileSystem := do
  let place ← fs.resolve path
  match fs.entry? place with
  | some .directory => .error .isADirectory
  | some (.file _) => if endsInSlash path then .error .isADirectory else .ok fs
  | none =>
    if endsInSlash path then .error .isADirectory
    else .ok (fs.setEntry place (.file (.text "")))

/-- Puts a new file in the place of whatever file is at the end of a path, at one stroke. -/
def replace (fs : FileSystem) (path : Path) (text : String) : Except Fault FileSystem := do
  let place ← fs.resolve path
  if endsInSlash path then .error .notADirectory
  else match fs.entry? place with
    | some .directory => .error .isADirectory
    | _ => .ok (fs.setEntry place (.file (.text text)))

def makeDirectory (fs : FileSystem) (path : Path) : Except Fault FileSystem := do
  let place ← fs.resolve path
  match fs.entry? place with
  | some _ => .error .alreadyExists
  | none => .ok (fs.setEntry place .directory)

def faultUnless (fs : FileSystem) (path : Path) (fault : Fault) : Option Fault :=
  if fs.isDirectory path then none else some fault

/-- Makes a directory and, first, those above it; `fuel` bounds their number. What was made before
a fault stays. -/
def makeDirectories (fs : FileSystem) : Nat → Path → FileSystem × Option Fault
  | 0, _ => (fs, some .notFound)
  | fuel + 1, path =>
    if path.isEmpty then (fs, none)
    else match fs.makeDirectory path with
      | .ok fs => (fs, none)
      | .error .notFound =>
        match path.parent? with
        | none => (fs, some .notFound)
        | some parent =>
          match fs.makeDirectories fuel parent with
          | (fs, some fault) => (fs, some fault)
          | (fs, none) =>
            match fs.makeDirectory path with
            | .ok fs => (fs, none)
            | .error fault => (fs, fs.faultUnless path fault)
      | .error fault => (fs, fs.faultUnless path fault)

/-- Makes sure that there is a directory. A parent is always shorter than its path. -/
def ensureDirectory (fs : FileSystem) (path : Path) : FileSystem × Option Fault :=
  fs.makeDirectories (path.length + 1) path

end FileSystem

end Credentials.Files
