import Credentials.Config.Layers
import Credentials.Text.Blank
import Credentials.Text.Integer

/-!
Environment variables fill in fields that no file set.
-/

namespace Credentials.Config

open Toml (Members Tree)

abbrev Environment := List (String × String)

def homeVariable : String := "HEARTH_HOME"

structure Fallback where
  name : String
  table : String
  field : String
  isInteger : Bool

/-- The variables in the order in which they are looked at. -/
def fallbacks : List Fallback :=
  [⟨"HEARTH_TOKENS_PATH", "store", "path", false⟩,
   ⟨"HEARTH_LOCK_TIMEOUT_MS", "store", "lock_timeout_ms", true⟩,
   ⟨"HEARTH_PAIRING_TTL_SECS", "auth", "pairing_ttl_secs", true⟩,
   ⟨"HEARTH_LOG_LEVEL", "logging", "level", false⟩,
   ⟨"HEARTH_LOG_FORMAT", "logging", "format", false⟩]

def Fallback.path (f : Fallback) : String := joinPath f.table f.field

/-- The value of a variable. What should be an integer and is none stays a text, and is refused
later on. -/
def Fallback.value (f : Fallback) (raw : String) : Tree :=
  if f.isInteger then
    match Text.integer64? (Text.trim raw.toList) with
    | some n => .integer n
    | none => .text raw
  else .text raw

/-- Sets a field below a path of tables, which are made where they are missing. Where something else
stands in the place of a table nothing is set. -/
def setField (value : Tree) (field : String) : List String → Tree → Tree
  | [], .table members => .table (Members.insert field value members)
  | key :: path, .table members =>
    let below := (members.lookup key).getD (.table [])
    .table (Members.insert key (setField value field path below) members)
  | _, tree => tree

structure Filling where
  tree : Tree
  sources : Sources
  count : Nat

/-- Whether a field was set by something above the defaults. -/
def isSet (sources : Sources) (path : String) : Bool :=
  (sources.find? path).any (· != .defaults)

def fillOne (env : Environment) (s : Filling) (f : Fallback) : Filling :=
  if isSet s.sources f.path then s
  else match env.lookup f.name with
    | none => s
    | some raw =>
      { tree := setField (f.value raw) f.field [f.table] s.tree
        sources := s.sources.set f.path .environment
        count := s.count + 1 }

def fill (env : Environment) (tree : Tree) (sources : Sources) : Filling :=
  fallbacks.foldl (fillOne env) ⟨tree, sources, 0⟩

end Credentials.Config
