import Credentials.Config.Loading
import Credentials.Json.Value
import Credentials.Toml.Printer

/-!
A configuration shown to its user: as TOML with the source of each value beside it, or as JSON.
-/

namespace Credentials.Config

/-- Why a configuration cannot be written as TOML: an integer past 64 signed bits. -/
inductive ShownError where
  | outOfRange
  deriving DecidableEq, Repr

def ShownError.message : ShownError → String
  | outOfRange => "out-of-range value for u64 type"

def integerText (n : UInt64) : Except ShownError (List Char) :=
  if Text.fits64 n.toNat then .ok (Nat.toDigits 10 n.toNat) else .error .outOfRange

def fieldLine (name : String) (value : List Char) : List Char :=
  name.toList ++ " = ".toList ++ value ++ ['\n']

def body (c : Config) : Except ShownError (List Char) := do
  let lockTimeout ← integerText c.store.lockTimeoutMillis
  let pairingLife ← integerText c.auth.pairingLifeSeconds
  return "[store]\n".toList ++
    fieldLine "path" (Toml.stringText c.store.path) ++
    fieldLine "lock_timeout_ms" lockTimeout ++
    "\n[auth]\n".toList ++
    fieldLine "pairing_ttl_secs" pairingLife ++
    fieldLine "mnemonic_language" (Toml.stringText c.auth.language) ++
    "\n[logging]\n".toList ++
    fieldLine "level" (Toml.stringText c.logging.level) ++
    fieldLine "format" (Toml.stringText c.logging.format) ++
    fieldLine "directives" (Toml.stringsText c.logging.directives)

/-- The lines of a text; a carriage return before a line feed does not belong to its line. -/
def linesOf (s : List Char) : List (List Char) :=
  let pieces := Text.fields '\n' s
  let pieces := if pieces.getLast? = some [] then pieces.dropLast else pieces
  pieces.map fun line => if line.getLast? = some '\r' then line.dropLast else line

def sectionName? (line : List Char) : Option (List Char) :=
  match line with
  | '[' :: rest => if rest.getLast? = some ']' then some rest.dropLast else none
  | _ => none

def lineLayer (sources : Sources) (title line : List Char) : Option Layer :=
  match line with
  | [] => none
  | '#' :: _ => none
  | '[' :: _ => none
  | _ =>
    let name := Text.trim (line.takeWhile (· != '='))
    let path := if title.isEmpty then name else title ++ '.' :: name
    sources.find? (String.ofList path)

def annotate (sources : Sources) (title : List Char) : List (List Char) → List Char
  | [] => []
  | line :: rest =>
    let bare := Text.trim line
    let title := (sectionName? bare).getD title
    let shown := match lineLayer sources title bare with
      | some layer => line ++ "  # [".toList ++ layer.name.toList ++ [']']
      | none => line
    shown ++ '\n' :: annotate sources title rest

def fileLines (i : Nat) : List String → List Char
  | [] => []
  | file :: rest =>
    "#   ".toList ++ Nat.toDigits 10 i ++ ". ".toList ++ file.toList ++
      '\n' :: fileLines (i + 1) rest

def Resolved.heading (r : Resolved) : List Char :=
  "# Resolved Hearth configuration\n".toList ++
    (if r.files.isEmpty then []
      else "#\n# Loaded files (lowest precedence first):\n".toList ++ fileLines 1 r.files) ++ ['\n']

def Resolved.toToml (r : Resolved) : Except ShownError String := do
  let text ← body r.config
  return String.ofList (r.heading ++ annotate r.sources [] (linesOf text))

def toValue (c : Config) : Json.Value :=
  .object
    [("store", .object
      [("path", .text c.store.path),
       ("lock_timeout_ms", .natural c.store.lockTimeoutMillis.toNat)]),
     ("auth", .object
      [("pairing_ttl_secs", .natural c.auth.pairingLifeSeconds.toNat),
       ("mnemonic_language", .text c.auth.language)]),
     ("logging", .object
      [("level", .text c.logging.level), ("format", .text c.logging.format),
       ("directives", .array (c.logging.directives.map .text))])]

end Credentials.Config
