import Credentials.Document.Basic
import Credentials.Text.Quoted
import Credentials.Time.Printer

/-!
A document shown for inspection, with every secret blacked out.
-/

namespace Credentials

open Time (Instant)

def shownStructure (name : String) (fields : List (String × String)) : String :=
  name ++ " \x7b " ++
    String.intercalate ", " (fields.map fun (key, value) => key ++ ": " ++ value) ++ " \x7d"

def shownOption {α : Type} (shown : α → String) : Option α → String
  | none => "None"
  | some a => "Some(" ++ shown a ++ ")"

def shownInstant (t : Instant) : String := String.ofList t.shortText

def redacted : String := Text.quoted "<redacted>"

def Device.redacted (d : Device) : String :=
  shownStructure "DeviceToken"
    [("secret", Credentials.redacted), ("name", Text.quoted d.name),
     ("created_at", shownInstant d.createdAt)]

/-- Of the bytes, only their number is shown. -/
def Recovery.redacted (r : Recovery) : String :=
  shownStructure "RecoveryCredential"
    [("secret", "SecretBytes(<" ++ toString r.secret.length ++ " bytes redacted>)"),
     ("created_at", shownInstant r.createdAt),
     ("expires_at", shownOption shownInstant r.expiresAt),
     ("uses_left", shownOption (fun n => toString n.toNat) r.usesLeft)]

def Pairing.redacted (p : Pairing) : String :=
  shownStructure "PairingCredential"
    [("secret", Credentials.redacted), ("created_at", shownInstant p.createdAt),
     ("expires_at", shownInstant p.expiresAt)]

def Document.redacted (d : Document) : String :=
  shownStructure "TokenDocument"
    [("devices", "[" ++ String.intercalate ", " (d.devices.map Device.redacted) ++ "]"),
     ("recovery", shownOption Recovery.redacted d.recovery),
     ("pairing", shownOption Pairing.redacted d.pairing)]

end Credentials
