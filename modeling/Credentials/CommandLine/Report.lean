import Credentials.CommandLine.Styled
import Credentials.Operation
import Credentials.Time.Printer

/-!
What is printed once an operation is done.
-/

namespace Credentials.CommandLine

open Time (Instant)
open Line

def nameEntry (name : String) : Line := entry "Name" (plain name)

def tokenEntry (secret : String) : Line := entry "Token" (Line.secret secret)

def expiryEntry (t : Instant) : Line := entry "Expires" (plain t.plainText)

def deviceLine (d : DeviceInfo) : Line :=
  plain ("  " ++ padded 24 d.name ++ " " ++ d.createdAt.plainText) ++
    dimmed (if d.isCaller then " (this device)" else "")

def deviceLines (devices : List DeviceInfo) : List Line :=
  [blank, heading "Devices"] ++ (if devices.isEmpty then [dimmed "  (none)"] else []) ++
    devices.map deviceLine ++ [blank]

def recoveryLines (s : Recovery.Status) : List Line :=
  [blank, heading "Recovery phrase"] ++
    (if s.isPresent then
      [entry "Valid" (plain (if s.isValid then "yes" else "no"))] ++
        (s.createdAt.map fun t => entry "Created" (plain t.plainText)).toList ++
        [entry "Expires" (plain ((s.expiresAt.map Instant.plainText).getD "never")),
         entry "Uses left" (plain ((s.usesLeft.map toString).getD "unlimited"))]
    else [dimmed "  none generated"]) ++ [blank]

def phraseLines (phrase : String) (expiresAt : Option Instant) (uses : Option Int) : List Line :=
  [success "Recovery phrase generated.", blank, plain "  " ++ Line.secret phrase, blank] ++
    (expiresAt.map expiryEntry).toList ++
    (uses.map fun n => entry "Uses" (plain (toString n))).toList ++
    [warning "Write the phrase down. Any previous phrase has stopped working."]

def rotatedLines (name : Option String) (secret : String) : List Line :=
  [success "Device token rotated."] ++ (name.map nameEntry).toList ++
    [tokenEntry secret, info "The previous token no longer works."]

def pairingLines (secret : String) (expiresAt : Option Instant) : List Line :=
  [success "Pairing secret created.", entry "Secret" (Line.secret secret)] ++
    (expiresAt.map expiryEntry).toList ++
    [info "It works once. Creating another replaces this one."]

/-- What is printed for an operation and its answer. An earlier or later query adds what the answer
does not tell: the name of a rotated device, the expiry of a new pairing secret. -/
def report (operation : Operation) (answer : Answer) (more : Option Answer := none) : List Line :=
  match operation, answer with
  | .query (.devices _), .infos devices => deviceLines devices
  | .query .recoveryStatus, .recovery status => recoveryLines status
  | .query .pairingStatus, .expiry (some t) =>
    [info ("Pairing secret pending until " ++ t.plainText)]
  | .query .pairingStatus, .expiry none => [dimmed "No pairing secret pending."]
  | .command (.createDevice _), .device d =>
    [success "Device token created.", nameEntry d.name, tokenEntry d.secret,
     warning "The token is shown only once. Store it on the device now."]
  | .command (.deleteDevice name _), .done => [success ("Deleted device '" ++ name ++ "'.")]
  | .command (.rotateDevice _), .secret secret =>
    rotatedLines (match more with
      | some (.name name) => name
      | _ => none) secret
  | .command (.generateRecovery expiresAt uses), .phrase phrase => phraseLines phrase expiresAt uses
  | .command (.redeemRecovery _ _), .device d =>
    [success "Recovery phrase accepted.", nameEntry d.name, tokenEntry d.secret]
  | .command .generatePairing, .secret secret =>
    pairingLines secret (match more with
      | some (.expiry t) => t
      | _ => none)
  | .command .invalidatePairing, .done => [success "Pairing secret invalidated."]
  | .command (.redeemPairing _ _), .device d =>
    [success "Device paired.", nameEntry d.name, tokenEntry d.secret]
  | _, _ => []

end Credentials.CommandLine
