import Credentials.CommandLine.Grammar
import Credentials.Operation
import Credentials.Text.Integer
import Credentials.Time.Reader

/-!
The commands of the program, and what they ask for.
-/

namespace Credentials.CommandLine

open Time (Instant)

inductive Request where
  | perform (operation : Operation)
  /-- To rotate a secret that was not given. -/
  | rotateUnnamed
  | showConfig (asJson : Bool)
  | showPaths
  deriving DecidableEq, Repr

def Request.operation? : Request → Option Operation
  | perform operation => some operation
  | _ => none

/-- Whether a request opens the store at all, and then whether it may change the document. -/
def Request.changes? : Request → Option Bool
  | perform (.command _) => some true
  | perform (.query _) => some false
  | rotateUnnamed => some false
  | showConfig _ => none
  | showPaths => none

def verboseOption : OptionRule where
  long := "verbose"
  short := some 'v'
  summary := "Enable verbose output"

def configOption : OptionRule where
  long := "config"
  short := some 'c'
  value := some { name := "PATH", accepts := fun s => !s.isEmpty }
  summary := "Additional configuration file (highest precedence)"

def tokenOption : OptionRule where
  long := "token"
  value := some { name := "TOKEN", fallback := some "HEARTH_TOKEN" }
  summary := "Token of the device issuing the command"

def expiryOption : OptionRule where
  long := "expires-at"
  value := some { name := "TIME", accepts := fun s => (Instant.ofLaxText? s.toList).isSome }
  summary := "Expiry as RFC 3339, e.g. 2030-01-01T00:00:00Z"

def usesOption : OptionRule where
  long := "uses"
  value := some
    { name := "N"
      accepts := fun s => (Text.integer64? s.toList).isSome
      mayBeginWithDash := true }
  summary := "Number of times the phrase may be used"

def jsonOption : OptionRule where
  long := "json"
  summary := "Print JSON instead of annotated TOML"

def caller? (given : Given) : Option String := given.lookup tokenOption.long

def newDeviceWord : WordRule := ⟨"DEVICE_NAME", "Display name for the new device"⟩

def deviceCommands : CommandRule Request :=
  .group "devices" "Manage device tokens" [tokenOption]
    [.leaf "list" "List devices" [] [] fun given _ =>
      some (.perform (.query (.devices (caller? given)))),
     .leaf "create" "Issue a token for a new device" []
      [⟨"NAME", "Display name (non-alphanumerics become '_')"⟩] fun _ words =>
      match words with
      | [name] => some (.perform (.command (.createDevice name)))
      | _ => none,
     .leaf "delete" "Delete a device" [] [⟨"NAME", "Display name of the device to delete"⟩]
      fun given words =>
      match words with
      | [name] => some (.perform (.command (.deleteDevice name ((caller? given).getD ""))))
      | _ => none,
     .leaf "rotate" "Replace the token given with --token" [] [] fun given _ =>
      match caller? given with
      | some secret => some (.perform (.command (.rotateDevice secret)))
      | none => some .rotateUnnamed]

def recoveryCommands : CommandRule Request :=
  .group "recovery" "Manage the recovery phrase" []
    [.leaf "generate" "Generate a new recovery phrase, replacing any existing one"
      [expiryOption, usesOption] [] fun given _ =>
      let expiresAt := (given.lookup expiryOption.long).bind fun s => Instant.ofLaxText? s.toList
      let uses := (given.lookup usesOption.long).bind fun s => Text.integer64? s.toList
      some (.perform (.command (.generateRecovery expiresAt uses))),
     .leaf "status" "Show recovery phrase status" [] [] fun _ _ =>
      some (.perform (.query .recoveryStatus)),
     .leaf "redeem" "Use the recovery phrase to create a device token" []
      [⟨"PHRASE", "The phrase, quoted as one argument"⟩, newDeviceWord] fun _ words =>
      match words with
      | [phrase, name] => some (.perform (.command (.redeemRecovery phrase name)))
      | _ => none]

def pairingCommands : CommandRule Request :=
  .group "pairing" "Manage new-device pairing" []
    [.leaf "create" "Create a pairing secret, replacing any pending one" [] [] fun _ _ =>
      some (.perform (.command .generatePairing)),
     .leaf "status" "Show whether a pairing secret is pending" [] [] fun _ _ =>
      some (.perform (.query .pairingStatus)),
     .leaf "invalidate" "Drop the pending pairing secret" [] [] fun _ _ =>
      some (.perform (.command .invalidatePairing)),
     .leaf "redeem" "Use a pairing secret to create a device token" []
      [⟨"SECRET", "The pairing secret"⟩, newDeviceWord] fun _ words =>
      match words with
      | [secret, name] => some (.perform (.command (.redeemPairing secret name)))
      | _ => none]

def configCommands : CommandRule Request :=
  .group "config" "Inspect configuration" []
    [.leaf "show" "Show the resolved configuration with value sources" [jsonOption] []
      fun given _ => some (.showConfig (given.has jsonOption.long)),
     .leaf "paths" "Show which files and variables are consulted" [] [] fun _ _ => some .showPaths]

def program : CommandRule Request :=
  .group "hearth" "Hearth - device credential administration" [verboseOption, configOption]
    [deviceCommands, recoveryCommands, pairingCommands, configCommands]

structure Invocation where
  request : Request
  verbose : Bool := false
  config : Option String := none
  deriving DecidableEq, Repr

def Invocation.ofArguments (env : List (String × String)) (args : List String) :
    Except Stop Invocation := do
  let (given, request) ← program.read env args
  return ⟨request, given.has verboseOption.long, given.lookup configOption.long⟩

end Credentials.CommandLine
