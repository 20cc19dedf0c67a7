import Credentials.CommandLine.Complaint
import Credentials.CommandLine.Help
import Credentials.CommandLine.Report
import Credentials.CommandLine.Request
import Credentials.Config.Shown
import Credentials.Logging.Setup

/-!
The program as a function of its arguments and of what surrounds it: what it prints, the code it
exits with, and the files it leaves.
-/

namespace Credentials.CommandLine

open Config (Environment Locations Resolved)
open Files (FileSystem Path)
open Time (Instant)

structure Surroundings where
  environment : Environment
  home : Path
  now : Instant
  randomness : Randomness
  files : FileSystem
  terminal : Bool := false

structure Outcome where
  code : Nat
  output : String
  errors : String
  files : FileSystem

/-- Colours are forced, or suppressed, or left to whether there is a terminal to show them. -/
def Surroundings.colours (s : Surroundings) : Bool :=
  let isOn (name : String) : Option Bool := (s.environment.lookup name).map (· != "0")
  if isOn "CLICOLOR_FORCE" == some true then true
  else if (isOn "NO_COLOR").isSome then false
  else (isOn "CLICOLOR").getD true && s.terminal

/-- What is logged. Without a configuration only warnings are. -/
def loggingSettings (loaded : Except Config.Error Resolved) (verbose : Bool) : Logging.Settings :=
  let s : Logging.Settings := match loaded with
    | .ok r =>
      { level := String.ofList (Text.lowerCase r.config.logging.level.toList)
        format := ((Logging.Format.ofName r.config.logging.format).toOption).getD .compact
        directives := r.config.logging.directives }
    | .error _ => { level := "warn" }
  if verbose then { s with level := "debug" } else s

/-- The line that is written if logging cannot start; the command runs all the same. -/
def loggingNotice (s : Logging.Settings) : String :=
  match s.checkFilters with
  | .ok () => ""
  | .error e => "Failed to initialize logging: " ++ e.message ++ "\n"

def fileEntry (files : FileSystem) (key : String) (path : Path) : Line :=
  let state := if files.isPresent path then "(found)" else "(missing)"
  Line.entry key (Line.plain (String.ofList path ++ " ") ++ Line.dimmed state)

def variableLine (env : Environment) (name : String) : Line :=
  let state := if (env.lookup name).isSome then "set" else "unset"
  Line.plain ("  " ++ Line.padded 24 name ++ " ") ++ Line.dimmed state

def pathLines (s : Surroundings) (places : Locations) (explicit : Option Path) : List Line :=
  [Line.blank, Line.heading "Config files (lowest precedence first)",
    fileEntry s.files "System" places.system, fileEntry s.files "User" places.user] ++
    (explicit.map (fileEntry s.files "Explicit")).toList ++
    [Line.blank, Line.heading "Environment fallbacks"] ++
    (Config.homeVariable :: Config.fallbacks.map (·.name)).map (variableLine s.environment) ++
    [Line.blank]

def configLines (asJson : Bool) (r : Resolved) : Except Complaint (List Line) :=
  if asJson then .ok [Line.plain r.config.toValue.prettyText]
  else match r.toToml with
    | .ok text => .ok [Line.plain text]
    | .error e => .error ⟨e.message, []⟩

def settingsOf (c : Config) : Except Complaint Settings :=
  match Mnemonic.Language.ofName? c.auth.language with
  | some language =>
    .ok { language := language, pairingLife := .ofSeconds c.auth.pairingLifeSeconds.toNat }
  | none => .error ⟨"unsupported mnemonic language '" ++ c.auth.language ++ "'", []⟩

structure Access where
  path : Path
  waitMillis : Nat
  changes : Bool
  deriving DecidableEq, Repr

abbrev Performance := Except Complaint (List Line) × DocumentStore

def ask (operation : Operation) (query : Query) (now : Instant) (store : DocumentStore) :
    Except Complaint Answer :=
  (query.run now store).mapError (Complaint.ofFailure operation)

/-- An operation with its report. The name of a rotated device is looked up before, the expiry of a
new pairing secret after the operation. -/
def perform (settings : Settings) (now : Instant) (r : Randomness) (operation : Operation)
    (store : DocumentStore) : Performance :=
  let before := match operation with
    | .command (.rotateDevice secret) => (ask operation (.nameOf secret) now store).map some
    | _ => .ok none
  match before with
  | .error complaint => (.error complaint, store)
  | .ok name =>
    let (result, store, _) := operation.run settings now store r
    match result with
    | .error failure => (.error (.ofFailure operation failure), store)
    | .ok answer =>
      match operation with
      | .command .generatePairing =>
        match ask operation .pairingStatus now store with
        | .error complaint => (.error complaint, store)
        | .ok expiry => (.ok (report operation answer (some expiry)), store)
      | _ => (.ok (report operation answer name), store)

def withStore (c : Config) (files : FileSystem) (act : Settings → DocumentStore → Performance) :
    Except Complaint (List Line) × FileSystem :=
  let path := c.store.path.toList
  match Store.prepare path files with
  | (files, some cause) =>
    (.error ((Complaint.ofStore cause).behind ("failed to open " ++ c.store.path)), files)
  -- by now the lock file is there, even if the settings are no good
  | (files, none) =>
    match settingsOf c with
    | .error complaint => (.error complaint, files)
    | .ok settings =>
      let (result, store) := act settings (.file path files)
      (result, store.files?.getD files)

def answer (request : Request) (explicit : Option Path) (places : Locations)
    (loaded : Except Config.Error Resolved) (s : Surroundings) :
    Except Complaint (List Line) × FileSystem :=
  match request, loaded with
  | .showPaths, _ => (.ok (pathLines s places explicit), s.files)
  | _, .error e => (.error ((Complaint.ofConfig e).behind "failed to load configuration"), s.files)
  | .showConfig asJson, .ok r => (configLines asJson r, s.files)
  | .rotateUnnamed, .ok r =>
    withStore r.config s.files fun _ store =>
      (.error ⟨"rotating requires the current token (--token or HEARTH_TOKEN)", []⟩, store)
  | .perform operation, .ok r =>
    withStore r.config s.files fun settings store =>
      perform settings s.now s.randomness operation store

/-- The document that arguments ask to be used, so that it can be locked before. -/
def access? (args : List String) (s : Surroundings) : Option Access :=
  match Invocation.ofArguments s.environment args with
  | .error _ => none
  | .ok i =>
    let places := Locations.standard s.home s.environment
    let explicit := i.config.map String.toList
    match i.request.changes?, Config.load s.files places explicit s.environment with
    | some changes, .ok r =>
      some ⟨r.config.store.path.toList, r.config.store.lockTimeoutMillis.toNat, changes⟩
    | _, _ => none

def Invocation.run (i : Invocation) (s : Surroundings) : Outcome :=
  let explicit := i.config.map String.toList
  let places := Locations.standard s.home s.environment
  let loaded := Config.load s.files places explicit s.environment
  let notice := loggingNotice (loggingSettings loaded i.verbose)
  match answer i.request explicit places loaded s with
  | (.ok lines, files) => ⟨0, Line.textOf s.colours lines, notice, files⟩
  | (.error complaint, files) => ⟨1, "", notice ++ complaint.text ++ "\n", files⟩

def versionText : String := "hearth 0.1.0\n"

def usageText : String := "error: invalid arguments\n\nFor more information, try '--help'.\n"

/-- Runs the program. Help and the version are told without looking at anything else. -/
def run (args : List String) (s : Surroundings) : Outcome :=
  match Invocation.ofArguments s.environment args with
  | .ok i => i.run s
  | .error .usage => ⟨2, "", usageText, s.files⟩
  | .error .version => ⟨0, versionText, "", s.files⟩
  | .error (.help path) => ⟨0, help program path, "", s.files⟩

end Credentials.CommandLine
