import Std.Time.DateTime.Timestamp
import Credentials.CommandLine.Run
import Credentials.Random.Digits

/-!
The program on a real machine: looks up what surrounds a run, runs, and makes the changes that the
run made to its files. A stored document is locked meanwhile.
-/

namespace Credentials.Program

open CommandLine (Access Complaint Outcome Surroundings)
open Files (Entry FileSystem Path Place)

def variableNames : List String :=
  ["HEARTH_TOKEN", "CLICOLOR_FORCE", "CLICOLOR", "NO_COLOR", Config.homeVariable] ++
    Config.fallbacks.map (·.name)

def environment : IO Config.Environment :=
  variableNames.filterMapM fun name => do
    return (← IO.getEnv name).map fun value => (name, value)

def pathOf (place : Place) : String := String.ofList ('/' :: ['/'].intercalate place)

/-- The place that a path names, going by its text alone. -/
def placeOf (current : Place) (path : Path) : Place :=
  let start := if path.head? = some '/' then [] else current
  (Text.fields '/' path).foldl (fun place piece =>
    if piece = ['.', '.'] then place.dropLast
    else if piece.isEmpty || piece = ['.'] then place
    else place ++ [piece]) start

def entryAt (place : Place) : IO (Option Entry) := do
  try
    let path ← IO.FS.realPath (pathOf place)
    if ← path.isDir then return some .directory
    let bytes ← IO.FS.readBinFile path
    return some (.file (match String.fromUTF8? bytes with
      | some text => .text text
      | none => .binary bytes.toList))
  catch
    | .noFileOrDirectory .. => return none
    | .inappropriateType .. => return none
    | e => throw e

def filesAt (current : Place) (paths : List Path) : IO FileSystem := do
  let places := (current :: paths.map (placeOf current)).flatMap fun place =>
    (List.range place.length).map fun i => place.take (i + 1)
  let entries ← places.eraseDups.filterMapM fun place => do
    return (← entryAt place).map fun entry => (place, entry)
  return ⟨entries, current⟩

/-- Only the owner may read or write what is written. -/
def ownerOnly : IO.FileRight where
  user := { read := true, write := true }

/-- Writes a file beside its place and then moves it there. -/
def replaceFile (place : Place) (bytes : ByteArray) : IO Unit := do
  let path := pathOf place
  let beside := path ++ ".new"
  IO.FS.writeBinFile beside .empty
  IO.setAccessRights beside ownerOnly
  IO.FS.writeBinFile beside bytes
  IO.FS.rename beside path

def makeChanges (before after : FileSystem) : IO Unit := do
  for (place, entry) in after.entries do
    if before.entry? place != some entry then
      match entry with
      | .directory => IO.FS.createDir (pathOf place)
      | .file content =>
        if (before.entry? place).isNone && content == .text "" then
          let _ ← IO.FS.Handle.mk (pathOf place) .append
        else replaceFile place (match content with
          | .text text => text.toUTF8
          | .binary bytes => ⟨bytes.toArray⟩)

def pauseMillis : Nat := 10

def tryLock (handle : IO.FS.Handle) (exclusive : Bool) : Nat → IO Bool
  | 0 => return false
  | n + 1 => do
    if ← handle.tryLock exclusive then return true
    IO.sleep pauseMillis.toUInt32
    tryLock handle exclusive n

def pathsFor (s : Surroundings) (args : List String) (access : Option Access) : List Path :=
  let standard := Config.Locations.standard s.home s.environment
  let explicit := match CommandLine.Invocation.ofArguments s.environment args with
    | .ok i => (i.config.map String.toList).toList
    | .error _ => []
  let stored := match access with
    | some a => [a.path, Store.lockPath a.path]
    | none => []
  [standard.system, standard.user] ++ explicit ++ stored

def tell (o : Outcome) : IO UInt32 := do
  IO.print o.output
  IO.eprint o.errors
  return o.code.toUInt32

def perform (s : Surroundings) (args : List String) : IO UInt32 := do
  let o := CommandLine.run args s
  makeChanges s.files o.files
  tell o

def performLocked (s : Surroundings) (args : List String) (access : Access) : IO UInt32 := do
  let look := filesAt s.files.current (pathsFor s args (some access))
  let files ← look
  match Store.prepare access.path files with
  | (_, some _) => perform { s with files } args
  | (prepared, none) =>
    makeChanges files prepared
    let place := placeOf s.files.current (Store.lockPath access.path)
    let handle ← IO.FS.Handle.mk (pathOf place) .append
    if ← tryLock handle access.changes (access.waitMillis / pauseMillis + 1) then
      let code ← perform { s with files := ← look } args
      handle.unlock
      return code
    else
      let complaint := Complaint.ofStore (.lockTimeout access.path)
      tell ⟨1, "", complaint.text ++ "\n", prepared⟩

def surroundings (args : List String) : IO Surroundings := do
  let now := (← Std.Time.Timestamp.now).val
  let current := placeOf [] (← IO.currentDir).toString.toList
  let draw : IO (List UInt8) := return (← IO.getRandomBytes 32).toList
  let s : Surroundings :=
    { environment := ← environment
      home := ((← IO.getEnv "HOME").getD "/").toList
      now := ⟨now.second.val, now.nano.val.toNat⟩
      randomness := ⟨← (List.replicate 8 draw).mapM id, Random.digits (← draw)⟩
      files := ⟨[], current⟩
      terminal := ← (← IO.getStdout).isTty }
  return { s with files := ← filesAt current (pathsFor s args none) }

end Credentials.Program

open Credentials in
def main (args : List String) : IO UInt32 := do
  try
    let s ← Program.surroundings args
    match CommandLine.access? args s with
    | some access => Program.performLocked s args access
    | none => Program.perform s args
  catch e =>
    IO.eprintln ("Error: " ++ toString e)
    return 1
