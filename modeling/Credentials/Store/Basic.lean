import Credentials.Decoding.Mismatch
import Credentials.Files.FileSystem

/-!
A store keeps one document, in memory or in a file. Reading gives the whole document; writing works
on a copy, and the copy is kept only if the writer commits it. A file has a lock file beside it.
-/

namespace Credentials

open Decoding (Mismatch)
open Files (Fault FileSystem Path)

structure Format (δ : Type) where
  empty : δ
  ofText : String → Except Mismatch δ
  toText : δ → String

inductive Store (δ : Type) where
  | memory (value : δ)
  /-- In memory, after a writer crashed while it held the document. -/
  | poisoned
  | file (path : Path) (files : FileSystem)

namespace Store

inductive Error where
  | io (path : Path) (fault : Fault)
  | parse (path : Path) (mismatch : Mismatch)
  | lockTimeout (path : Path)
  | poisoned
  deriving DecidableEq, Repr

def Error.message : Error → String
  | io path fault => "I/O error on " ++ String.ofList path ++ ": " ++ fault.message
  | parse path mismatch => "failed to parse " ++ String.ofList path ++ ": " ++ mismatch.message
  | lockTimeout path => "timed out waiting for lock on " ++ String.ofList path
  | poisoned => "document lock poisoned"

/-- The lock file is the document's path with `.lk` after its name. -/
def lockPath (path : Path) : Path :=
  Path.withFileName path ((Path.fileName? path).getD [] ++ ".lk".toList)

/-- Makes the directory and the lock file of a document, but not the document. -/
def prepare (path : Path) (files : FileSystem) : FileSystem × Option Error :=
  let lock := lockPath path
  let parent := (Path.parent? lock).getD []
  match files.ensureDirectory parent with
  | (files, some fault) => (files, some (.io parent fault))
  | (files, none) =>
    match files.touch lock with
    | .ok files => (files, none)
    | .error fault => (files, some (.io lock fault))

def acquire (path : Path) (files : FileSystem) : Except Error Unit :=
  match files.read (lockPath path) with
  | .ok _ => .ok ()
  | .error fault => .error (.io (lockPath path) fault)

variable {δ : Type}

def load (format : Format δ) (path : Path) (files : FileSystem) : Except Error δ :=
  match files.readText path with
  | .error .notFound => .ok format.empty
  | .error fault => .error (.io path fault)
  | .ok text =>
    if text.toList.all Text.isBlank then .ok format.empty
    else match format.ofText text with
      | .ok value => .ok value
      | .error mismatch => .error (.parse path mismatch)

def read (format : Format δ) : Store δ → Except Error δ
  | memory value => .ok value
  | poisoned => .error .poisoned
  | file path files => do
    acquire path files
    load format path files

inductive Verdict (ε α : Type) where
  | commit (value : α)
  | refuse (cause : ε)
  | crash

/-- Works on a copy of the document, and on whatever else it is given. -/
abbrev Writer (σ ε α δ : Type) := σ → δ → Verdict ε α × δ × σ

inductive Failure (ε : Type) where
  | refused (cause : ε)
  | store (cause : Error)
  | crashed

/-- Runs a writer on the document. Whatever it did to its copy, the store changes only if it
commits and the copy can be kept; a crash leaves a store in memory unusable. -/
def update {σ ε α : Type} (format : Format δ) (writer : Writer σ ε α δ) (s : σ) :
    Store δ → Except (Failure ε) α × Store δ × σ
  | poisoned => (.error (.store .poisoned), poisoned, s)
  | memory value =>
    match writer s value with
    | (.commit a, copy, s) => (.ok a, memory copy, s)
    | (.refuse cause, _, s) => (.error (.refused cause), memory value, s)
    | (.crash, _, s) => (.error .crashed, poisoned, s)
  | file path files =>
    match read format (file path files) with
    | .error cause => (.error (.store cause), file path files, s)
    | .ok value =>
      match writer s value with
      | (.refuse cause, _, s) => (.error (.refused cause), file path files, s)
      | (.crash, _, s) => (.error .crashed, file path files, s)
      | (.commit a, copy, s) =>
        match files.replace path (format.toText copy) with
        | .ok files => (.ok a, file path files, s)
        | .error fault => (.error (.store (.io path fault)), file path files, s)

def memoryName : Path := "<memory>".toList

def name : Store δ → Path
  | memory _ => memoryName
  | poisoned => memoryName
  | file path _ => path

def path? : Store δ → Option Path
  | memory _ => none
  | poisoned => none
  | file path _ => some path

def files? : Store δ → Option FileSystem
  | memory _ => none
  | poisoned => none
  | file _ files => some files

def shown (store : Store δ) : String :=
  "LockedDocument \x7b path: " ++ Text.quoted (String.ofList store.name) ++
    ", options: StoreOptions \x7b lock_timeout: 10s \x7d \x7d"

end Store

end Credentials
