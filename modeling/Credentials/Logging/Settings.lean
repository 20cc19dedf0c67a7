import Credentials.Files.FileSystem
import Credentials.Json.Reader
import Credentials.Json.Value
import Credentials.Logging.Filter

/-!
How logs are written: the filter, the format and the target. Settings are read from JSON and
written as JSON.
-/

namespace Credentials.Logging

open Decoding (Decode Mismatch Node Shape once sequence skip)

inductive Format where
  | pretty
  | compact
  | json
  deriving DecidableEq, Repr

def Format.all : List Format := [.pretty, .compact, .json]

def Format.name : Format → String
  | pretty => "pretty"
  | compact => "compact"
  | json => "json"

inductive Target where
  | stdout
  | stderr
  /-- A file for each day in this directory. -/
  | file (directory : String)
  deriving DecidableEq, Repr

structure Settings where
  level : String := "info"
  format : Format := .compact
  target : Target := .stderr
  directives : List String := []
  colours : Bool := true
  timestamps : Bool := true
  deriving DecidableEq, Repr

inductive Error where
  | unknownFormat (name : String)
  | filter (cause : DirectiveError)
  | directive (text : String) (cause : DirectiveError)
  | directory (path : String) (fault : Files.Fault)
  deriving DecidableEq, Repr

def Error.message (e : Error) : String :=
  "invalid logging configuration: " ++ match e with
    | unknownFormat name => "unknown log format '" ++ name ++ "'"
    | filter cause => cause.message
    | directive text cause => "directive '" ++ text ++ "': " ++ cause.message
    | directory path fault => "failed to create log directory " ++ path ++ ": " ++ fault.message

def Format.ofName (name : String) : Except Error Format :=
  let name := String.ofList (lowerAscii name.toList)
  match all.find? (·.name == name) with
  | some format => .ok format
  | none => .error (.unknownFormat name)

namespace Settings

/-- A file is written without colours. -/
def withTarget (s : Settings) (target : Target) : Settings :=
  match target with
  | .file _ => { s with target := target, colours := false }
  | _ => { s with target := target }

def withDirective (s : Settings) (directive : String) : Settings :=
  { s with directives := s.directives ++ [directive] }

end Settings

/-- A choice is written as its name, or as a map from its name to its value. -/
def choice {α : Type} (bare : String → Except Mismatch α) (valued : String → Decode α) : Decode α
  | .text name => bare name
  | .map [(name, node)] closed => do
    let value ← valued name node
    if closed then return value else throw .malformed
  | .map ((name, node) :: _) _ => do
    let _ ← valued name node
    throw .malformed
  | _ => .error .malformed

def Format.named (name : String) : Except Mismatch Format :=
  match all.find? (·.name == name) with
  | some format => .ok format
  | none => .error (.unknownVariant name (all.map (·.name)))

def Format.decode : Decode Format :=
  choice Format.named fun name node => do
    let format ← Format.named name
    Decoding.unit node
    return format

def Target.names : List String := ["stdout", "stderr", "file"]

def Target.named (name : String) : Except Mismatch Target :=
  match name with
  | "stdout" => .ok .stdout
  | "stderr" => .ok .stderr
  | "file" => .error (.invalidType .bareChoice "newtype variant")
  | _ => .error (.unknownVariant name names)

def Target.valued (name : String) (node : Node) : Except Mismatch Target := do
  if name = "file" then return .file (← Decoding.path node)
  else
    let target ← Target.named name
    Decoding.unit node
    return target

def Target.decode : Decode Target := choice Target.named Target.valued

structure Settings.Fields where
  level : Option String := none
  format : Option Format := none
  target : Option Target := none
  directives : Option (List String) := none
  colours : Option Bool := none
  timestamps : Option Bool := none

def Settings.shape : Shape Settings.Fields Settings where
  name := "LogConfig"
  start := {}
  size := 6
  member s key node :=
    match key with
    | "level" => return { s with level := ← once key s.level Decoding.text node }
    | "format" => return { s with format := ← once key s.format Format.decode node }
    | "target" => return { s with target := ← once key s.target Target.decode node }
    | "directives" =>
      return { s with directives := ← once key s.directives (sequence Decoding.text) node }
    | "ansi" => return { s with colours := ← once key s.colours Decoding.boolean node }
    | "timestamps" => return { s with timestamps := ← once key s.timestamps Decoding.boolean node }
    | _ => skip s node
  place s i node :=
    match i with
    | 0 => return { s with level := some (← Decoding.text node) }
    | 1 => return { s with format := some (← Format.decode node) }
    | 2 => return { s with target := some (← Target.decode node) }
    | 3 => return { s with directives := some (← sequence Decoding.text node) }
    | 4 => return { s with colours := some (← Decoding.boolean node) }
    | _ => return { s with timestamps := some (← Decoding.boolean node) }
  hasDefault _ := true
  finish s :=
    let d : Settings := {}
    return ⟨s.level.getD d.level, s.format.getD d.format, s.target.getD d.target,
      s.directives.getD d.directives, s.colours.getD d.colours, s.timestamps.getD d.timestamps⟩

namespace Settings

def ofJson (text : String) : Except Mismatch Settings := Json.decodeText shape.decode text

def targetValue : Target → Json.Value
  | .stdout => .text "stdout"
  | .stderr => .text "stderr"
  | .file directory => .object [("file", .text directory)]

def toValue (s : Settings) : Json.Value :=
  .object
    [("level", .text s.level), ("format", .text s.format.name), ("target", targetValue s.target),
     ("directives", .array (s.directives.map .text)), ("ansi", .boolean s.colours),
     ("timestamps", .boolean s.timestamps)]

end Settings

end Credentials.Logging
