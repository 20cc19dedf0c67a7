import Credentials.Config.Environment
import Credentials.Config.Validation
import Credentials.Files.FileSystem
import Credentials.Toml.Reader

/-!
Loading a configuration: the defaults, the file of the system, that of the user and one asked for
are laid over each other, environment variables fill in what no file set, and the result is checked.
-/

namespace Credentials.Config

open Decoding (Mismatch)
open Files (Fault FileSystem Path)
open Toml (Tree)

def defaultTree : Tree :=
  .table
    [("auth", .table [("mnemonic_language", .text "english"), ("pairing_ttl_secs", .integer 600)]),
     ("logging", .table
      [("directives", .array []), ("format", .text "compact"), ("level", .text "info")]),
     ("store", .table
      [("lock_timeout_ms", .integer 10000), ("path", .text "/var/lib/hearth/tokens.json")])]

inductive Error where
  | unreadable (path : Path) (fault : Fault)
  | missing (path : Path)
  | malformed (path : Path)
  | mismatch (cause : Mismatch)
  | invalid (cause : Invalid)
  deriving DecidableEq, Repr

def mergedName : String := "<merged config>"

def Error.message : Error → String
  | unreadable path fault =>
    "failed to read config file " ++ String.ofList path ++ ": " ++ fault.message
  | missing path => "failed to read config file " ++ String.ofList path ++ ": entity not found"
  | malformed path => "failed to parse " ++ String.ofList path ++ ": syntax"
  | mismatch cause => "failed to parse " ++ mergedName ++ ": " ++ cause.message
  | invalid cause => "invalid value for '" ++ cause.field ++ "': " ++ cause.message

structure Locations where
  system : Path
  user : Path
  deriving DecidableEq, Repr

/-- The standard locations; `home` is the directory of the user. An empty variable counts as
absent. -/
def Locations.standard (home : Path) (env : Environment) : Locations where
  system := "/etc/hearth/config.toml".toList
  user :=
    let directory := match (env.lookup homeVariable).filter (!·.isEmpty) with
      | some directory => directory.toList
      | none => Path.join home ".hearth".toList
    Path.join directory "config.toml".toList

def mostFileBytes : Nat := 1048576

def readFile (files : FileSystem) (path : Path) : Except Error (Option Tree) :=
  match files.readText path with
  | .error .notFound => .ok none
  | .error fault => .error (.unreadable path fault)
  | .ok text =>
    let size := text.utf8ByteSize
    if mostFileBytes < size then
      .error (.invalid ⟨String.ofList path, "config file is " ++ toString size ++
        " bytes, exceeding the " ++ toString mostFileBytes ++ " byte limit"⟩)
    else match Toml.read? text with
      | some tree => .ok (some tree)
      | none => .error (.malformed path)

structure Stack where
  tree : Tree
  sources : Sources
  /-- The files that were laid down, lowest first. -/
  files : List Path

def Stack.base : Stack := ⟨defaultTree, record .defaults "" [] defaultTree, []⟩

def Stack.push (s : Stack) (layer : Layer) (path : Path) (tree : Tree) : Stack :=
  let (merged, sources) := overlay layer "" s.tree s.sources tree
  ⟨merged, sources, s.files ++ [path]⟩

def Stack.pushFile (files : FileSystem) (s : Stack) (layer : Layer) (path : Path) :
    Except Error Stack := do
  match ← readFile files path with
  | some tree => return s.push layer path tree
  | none => return s

/-- Lays down a file that has to be there. -/
def Stack.pushExplicit (files : FileSystem) (s : Stack) (path : Path) : Except Error Stack := do
  match ← readFile files path with
  | some tree => return s.push .explicit path tree
  | none => throw (.missing path)

structure Resolved where
  config : Config
  sources : Sources
  files : List String
  deriving DecidableEq, Repr

def stack (files : FileSystem) (places : Locations) (explicit : Option Path) :
    Except Error Stack := do
  let s ← Stack.base.pushFile files .system places.system
  let s ← s.pushFile files .user places.user
  match explicit with
  | some path => s.pushExplicit files path
  | none => return s

def load (files : FileSystem) (places : Locations) (explicit : Option Path) (env : Environment) :
    Except Error Resolved := do
  let s ← stack files places explicit
  let filled := fill env s.tree s.sources
  match decode filled.tree.toNode with
  | .error cause => throw (.mismatch cause)
  | .ok config =>
    match config.check with
    | .error cause => throw (.invalid cause)
    | .ok () => return ⟨config, filled.sources, s.files.map String.ofList⟩

end Credentials.Config
